import TokenIssuer.Proofs.Service.Recognition

/-!
What recognition ends in: a client, nobody, a store that is out of reach, or a fault that nothing is
prepared for; and which requests meet such a fault.
-/

namespace TokenIssuer.Service

open Http Store

/-- The stores answer and no check raises, so that only the credentials decide who is recognised. -/
structure Resolvable (stores : Stores) (header : Option String) : Prop where
  clientsUp : .configurations ∉ stores.down
  secretsUp : .secrets ∉ stores.down
  ascii : Basic.EncodedInAscii header
  checkable : Recognition.HeldCheckable stores header

theorem resolvable_empty {header : Option String} (ascii : Basic.EncodedInAscii header) :
    Resolvable .empty header :=
  ⟨List.not_mem_nil, List.not_mem_nil, ascii, fun _ _ _ hs => absurd hs List.not_mem_nil⟩

theorem resolvable_mistaken (id : Uuid) :
    Resolvable (Demo.stores id "unset") (some Demo.mistaken) where
  clientsUp := List.not_mem_nil
  secretsUp := List.not_mem_nil
  ascii := Demo.ascii_mistaken
  checkable := by
    intro credentials held secret hs
    rw [Recognition.holds_unique held Demo.holds_mistaken] at hs
    exact ⟨false, Demo.checks_unset hs⟩

namespace Recognition

open Authentication

variable {frame : Frame} {stores : Stores} {form : Form} {credentials : Basic.Credentials}

/-! ## Nobody -/

theorem ofRequest_of_nobody (frame : Frame)
    (resolvable : Resolvable stores (frame.request.header? "authorization"))
    (nobody : ∀ principal,
      ¬ Recognises stores (frame.request.header? "authorization") form principal) :
    (ofRequest frame (ofStores stores) form).result = .error .unauthenticated := by
  have hsettles := ofRequest_settles frame form resolvable.clientsUp resolvable.secretsUp
    resolvable.ascii resolvable.checkable
  exact hsettles.eq_refusal nobody

theorem ofConfidential_of_nobody (frame : Frame)
    (resolvable : Resolvable stores (frame.request.header? "authorization"))
    (nobody : ∀ principal,
      ¬ Confidential stores (frame.request.header? "authorization") principal) :
    (ofConfidential frame (ofStores stores)).result = .error .unauthenticated := by
  have hsettles := ofConfidential_settles frame resolvable.clientsUp resolvable.secretsUp
    resolvable.ascii resolvable.checkable
  exact hsettles.eq_refusal nobody

theorem not_recognises_mistaken {principal : Client.Principal}
    (unproven : ∀ client, ¬ Proven stores ⟨Demo.confidentialId.text, "weasel"⟩ client) :
    ¬ Recognises stores (some Demo.mistaken) form principal := by
  intro h
  cases h with
  | byHeader held _ proven =>
    rw [holds_unique held Demo.holds_mistaken] at proven
    exact unproven _ proven
  | byIdentifier single _ _ _ => exact single Demo.holds_mistaken.1

theorem not_recognises_mistaken_empty {principal : Client.Principal} :
    ¬ Recognises .empty (some Demo.mistaken) form principal :=
  not_recognises_mistaken fun _ proven =>
    absurd (show (none : Option Client.Configuration) = some _ from proven.registered) (by simp)

theorem not_recognises_mistaken_unset {id : Uuid} {principal : Client.Principal} :
    ¬ Recognises (Demo.stores id "unset") (some Demo.mistaken) form principal :=
  not_recognises_mistaken fun _ => Demo.not_proves_unset

/-! ## Faults that nothing is prepared for -/

/-- Recognition ends in a fault that nothing is prepared for. -/
def Fails (recognition : Recognition) : Prop :=
  ∃ fault, recognition.result = .error (.unexpected fault)

theorem fails_conclude_iff {channel : String} {outcome : Authentication.Outcome} :
    Fails (conclude frame channel outcome) ↔ ∃ fault, outcome.result = .error (.check fault) := by
  unfold Fails
  rw [conclude_result]
  cases outcome.result with
  | error cause => cases cause <;> simp [Http.Fault.ofAuthentication, Http.Fault.ofUnreachable]
  | ok found => cases found <;> simp [Http.Fault.unauthenticated, Http.Fault.authentication]

theorem not_fails_identify (directory : Directory) (clientId : String) :
    ¬ Fails (conclude frame "client_id" (identify directory clientId)) := by
  rw [fails_conclude_iff]
  rintro ⟨fault, h⟩
  unfold identify at h
  cases hf : directory.findClient clientId with
  | error u => rw [hf] at h; cases h
  | ok found => rw [hf] at h; cases found <;> cases h

theorem recognizeOwner_ne_check (directory : Directory) (secret : Store.Secret)
    (fault : Secret.Fault) : (recognizeOwner directory secret).result ≠ .error (.check fault) := by
  unfold recognizeOwner
  cases directory.getClient secret.owner with
  | error u => simp [Outcome.quiet]
  | ok found =>
    cases found with
    | none => simp
    | some client =>
      simp only
      split <;> simp [Outcome.quiet]

/-- The checks of presented credentials break off, the secrets on file being at hand. -/
def Breaks (stores : Stores) (credentials : Basic.Credentials) : Prop :=
  .secrets ∉ stores.down ∧
    BreaksOff (Utf8.encode credentials.secret.toList) (stores.secrets.ownedBy credentials.clientId)

theorem fails_byHeader_iff :
    Fails (byHeader frame (ofStores stores) credentials) ↔ Breaks stores credentials := by
  unfold byHeader Breaks
  rw [fails_conclude_iff, ← firstMatch_fails_iff]
  by_cases up : .secrets ∈ stores.down
  · have hfind : (ofStores stores).findSecrets credentials.clientId = .error ⟨.secrets⟩ := if_pos up
    refine iff_of_false ?_ fun h => h.1 up
    simp [authenticate, hfind, Outcome.quiet]
  · rw [authenticate_of_up up]
    cases firstMatch (Utf8.encode credentials.secret.toList)
        (stores.secrets.ownedBy credentials.clientId) with
    | error fault => exact iff_of_true ⟨fault, rfl⟩ ⟨up, fault, rfl⟩
    | ok found =>
      refine iff_of_false ?_ ?_
      · rintro ⟨fault, h⟩
        cases found with
        | none => cases h
        | some secret => exact recognizeOwner_ne_check _ _ _ h
      · rintro ⟨-, fault, h⟩
        cases h

/-- The header cannot even be given to the decoder. -/
def Foreign (header : Option String) : Prop := Basic.IsBasic header ∧ ¬ Basic.EncodedInAscii header

theorem fails_unreadable_iff {fault : Basic.Fault}
    (h : Basic.read (frame.request.header? "authorization") = .error fault) :
    Fails (unreadable frame fault) ↔ Foreign (frame.request.header? "authorization") := by
  unfold Foreign
  rw [← Basic.read_eq_notAscii_iff, h]
  cases fault with
  | malformed => exact iff_of_false (fun hf => nomatch hf.choose_spec) (by simp)
  | notAscii => exact iff_of_true ⟨_, rfl⟩ rfl

theorem not_foreign_of_read {found : Option Basic.Credentials} {header : Option String}
    (h : Basic.read header = .ok found) : ¬ Foreign header := by
  intro hf
  rw [Basic.read_of_foreign hf.1 hf.2] at h
  cases h

theorem ofRequest_fails_iff :
    Fails (ofRequest frame (ofStores stores) form) ↔
      Foreign (frame.request.header? "authorization") ∨
        form.lookup "client_id" = none ∧ ∃ credentials,
          Basic.Holds (frame.request.header? "authorization") credentials ∧
            Breaks stores credentials := by
  unfold ofRequest
  cases hread : Basic.read (frame.request.header? "authorization") with
  | error fault =>
    have hnone (credentials : Basic.Credentials) :
        ¬ Basic.Holds (frame.request.header? "authorization") credentials := by
      intro hheld
      rw [Basic.read_of_holds hheld] at hread
      cases hread
    rw [or_iff_left fun h => h.2.elim fun c hc => hnone c hc.1]
    exact fails_unreadable_iff hread
  | ok found =>
    rw [or_iff_right (not_foreign_of_read hread)]
    cases found with
    | none =>
      have hnone (credentials : Basic.Credentials) :
          ¬ Basic.Holds (frame.request.header? "authorization") credentials := by
        intro hheld
        rw [Basic.read_of_holds hheld] at hread
        cases hread
      -- Without a Basic header no secret is checked.
      refine iff_of_false ?_ fun h => h.2.elim fun c hc => hnone c hc.1
      cases form.lookup "client_id" with
      | none => exact fun hf => nomatch hf.choose_spec
      | some clientId => exact not_fails_identify _ _
    | some credentials =>
      have hheld := Basic.read_eq_some_iff.mp hread
      cases hid : form.lookup "client_id" with
      | none =>
        refine fails_byHeader_iff.trans ⟨fun h => ⟨rfl, credentials, hheld, h⟩, ?_⟩
        rintro ⟨-, other, hother, hbreaks⟩
        rwa [holds_unique hheld hother]
      | some clientId =>
        -- Two ways at once are refused before any hash is checked.
        exact iff_of_false (fun hf => nomatch hf.choose_spec) (by simp)

theorem ofConfidential_fails_iff :
    Fails (ofConfidential frame (ofStores stores)) ↔
      Foreign (frame.request.header? "authorization") ∨ ∃ credentials,
        Basic.Holds (frame.request.header? "authorization") credentials ∧
          Breaks stores credentials := by
  by_cases hb : Basic.IsBasic (frame.request.header? "authorization")
  · -- The header alone decides, as it does beside a form without an identifier.
    have hempty : List.lookup "client_id" ([] : Form) = none := rfl
    rw [← ofRequest_eq_ofConfidential hb hempty, ofRequest_fails_iff]
    simp only [hempty, true_and]
  · refine iff_of_false ?_ ?_
    · unfold ofConfidential
      rw [Basic.read_of_not_isBasic hb]
      exact fun hf => nomatch hf.choose_spec
    · rintro (h | ⟨credentials, held, -⟩)
      · exact hb h.1
      · exact hb held.1

/-- What recognition may end in. -/
inductive Ends (recognition : Recognition) : Prop where
  | client (principal : Client.Principal) (h : recognition.result = .ok principal)
  | nobody (h : recognition.result = .error .unauthenticated)
  | unreached (u : Unreachable) (h : recognition.result = .error (.ofUnreachable u))
  | fails (h : recognition.Fails)

theorem conclude_ends (frame : Frame) (channel : String) (outcome : Authentication.Outcome) :
    Ends (conclude frame channel outcome) := by
  have hresult : (conclude frame channel outcome).result = _ := conclude_result channel outcome
  cases ho : outcome.result with
  | error cause =>
    rw [ho] at hresult
    cases cause with
    | unreachable u => exact .unreached u hresult
    | check fault => exact .fails ⟨_, hresult⟩
  | ok found =>
    rw [ho] at hresult
    cases found with
    | none => exact .nobody hresult
    | some principal => exact .client principal hresult

theorem ofRequest_ends (frame : Frame) (directory : Directory) (form : Form) :
    Ends (ofRequest frame directory form) := by
  unfold ofRequest
  cases Basic.read (frame.request.header? "authorization") with
  | error fault =>
    cases fault with
    | malformed => exact .nobody rfl
    | notAscii => exact .fails ⟨_, rfl⟩
  | ok found =>
    cases form.lookup "client_id" with
    | none =>
      cases found with
      | none => exact .nobody rfl
      | some credentials => exact conclude_ends _ _ _
    | some clientId =>
      cases found with
      | none => exact conclude_ends _ _ _
      | some credentials => exact .nobody rfl

theorem ofConfidential_ends (frame : Frame) (directory : Directory) :
    Ends (ofConfidential frame directory) := by
  by_cases hb : Basic.IsBasic (frame.request.header? "authorization")
  · have hempty : List.lookup "client_id" ([] : Form) = none := rfl
    rw [← ofRequest_eq_ofConfidential hb hempty]
    exact ofRequest_ends frame directory []
  · unfold ofConfidential
    rw [Basic.read_of_not_isBasic hb]
    exact .nobody rfl

theorem not_breaks_of_checkable
    (checkable : Checkable stores credentials.clientId (Utf8.encode credentials.secret.toList)) :
    ¬ Breaks stores credentials := by
  rintro ⟨-, hbroken⟩
  obtain ⟨secret, hs, fault, hraises⟩ := hbroken.exists_raises
  obtain ⟨fits, hv⟩ := checkable secret hs
  rw [hv] at hraises
  cases hraises

/-- With a header in ASCII and hashes that can be checked, recognition ends with a client, with
nobody, or for want of a store that is out of reach. -/
theorem ofConfidential_of_checkable (frame : Frame)
    (ascii : Basic.EncodedInAscii (frame.request.header? "authorization"))
    (checkable : HeldCheckable stores (frame.request.header? "authorization")) :
    (∃ client, (ofConfidential frame (ofStores stores)).result = .ok client) ∨
      (ofConfidential frame (ofStores stores)).result = .error .unauthenticated ∨
      (.configurations ∈ stores.down ∨ .secrets ∈ stores.down) ∧
        ∃ u, (ofConfidential frame (ofStores stores)).result = .error (.ofUnreachable u) := by
  cases ofConfidential_ends frame (ofStores stores) with
  | client principal h => exact .inl ⟨principal, h⟩
  | nobody h => exact .inr (.inl h)
  | unreached u h =>
    right; right
    refine ⟨?_, u, h⟩
    by_contra hup
    rw [not_or] at hup
    -- With both stores at hand it ends in one of the first two ways.
    rcases ofConfidential_settles frame hup.1 hup.2 ascii checkable with ⟨client, -, hr⟩ | ⟨hr, -⟩
    · rw [hr] at h
      cases h
    · rw [hr] at h
      cases h
  | fails h =>
    rcases ofConfidential_fails_iff.mp h with hforeign | ⟨credentials, hheld, hbreaks⟩
    · exact absurd ascii hforeign.2
    · exact absurd hbreaks (not_breaks_of_checkable (checkable credentials hheld))

end Recognition

end TokenIssuer.Service
