import TokenIssuer.Service.Recognition
import TokenIssuer.Proofs.Demo
import TokenIssuer.Proofs.Http.Failure

/-!
Which requests a client is recognised in: one of the two ways its credentials may come is used, and
that one succeeds.
-/

namespace TokenIssuer.Service.Recognition

open Http Store Authentication

variable {frame : Frame} {stores : Stores} {form : Form} {header : Option String}
  {credentials : Basic.Credentials} {principal : Client.Principal}

/-- The credentials are those of a confidential client. -/
def Proven (stores : Stores) (credentials : Basic.Credentials) (client : Client.Configuration) :
    Prop :=
  Proves stores credentials.clientId (Utf8.encode credentials.secret.toList) client

/-- The secret of the credentials in the header, if there are some, can be checked against every
hash on file for their client. -/
def HeldCheckable (stores : Stores) (header : Option String) : Prop :=
  ∀ credentials, Basic.Holds header credentials →
    Checkable stores credentials.clientId (Utf8.encode credentials.secret.toList)

/-- Exactly one of the two ways is used, and it succeeds: credentials in the header that are those
of a confidential client, or an identifier in the form that is the one of a public client. -/
inductive Recognises (stores : Stores) (header : Option String) (form : Form) :
    Client.Principal → Prop where
  | byHeader {credentials : Basic.Credentials} {client : Client.Configuration}
      (held : Basic.Holds header credentials) (single : form.lookup "client_id" = none)
      (proven : Proven stores credentials client) :
      Recognises stores header form (.confidential client)
  | byIdentifier {clientId : String} {client : Client.Configuration}
      (single : ¬ Basic.IsBasic header) (given : form.lookup "client_id" = some clientId)
      (registered : stores.clients.find clientId = some client)
      (kind : client.kind = .publicClient) :
      Recognises stores header form (.identified client)

/-- The credentials in the header alone are those of a confidential client. -/
inductive Confidential (stores : Stores) (header : Option String) : Client.Principal → Prop where
  | byHeader {credentials : Basic.Credentials} {client : Client.Configuration}
      (held : Basic.Holds header credentials) (proven : Proven stores credentials client) :
      Confidential stores header (.confidential client)

/-- A header holds the credentials of one client only. -/
theorem holds_unique {other : Basic.Credentials} (h : Basic.Holds header credentials)
    (ho : Basic.Holds header other) : credentials = other := by
  have hr := Basic.read_of_holds h
  rw [Basic.read_of_holds ho] at hr
  exact (Option.some.inj (Except.ok.inj hr)).symm

theorem Recognises.unique {other : Client.Principal} (h : Recognises stores header form principal)
    (ho : Recognises stores header form other) : principal = other := by
  cases h with
  | byHeader held _ proven =>
    cases ho with
    | byHeader held' _ proven' =>
      rw [holds_unique held' held] at proven'
      have he := proven.registered.symm.trans proven'.registered
      rw [Option.some.inj he]
    | byIdentifier single _ _ _ => exact absurd held.1 single
  | byIdentifier single given registered _ =>
    cases ho with
    | byHeader held _ _ => exact absurd held.1 single
    | byIdentifier _ given' registered' _ =>
      have hi := Option.some.inj (given.symm.trans given')
      rw [← hi] at registered'
      rw [Option.some.inj (registered.symm.trans registered')]

theorem Confidential.unique {other : Client.Principal} (h : Confidential stores header principal)
    (ho : Confidential stores header other) : principal = other := by
  cases h with
  | byHeader held proven =>
    cases ho with
    | byHeader held' proven' =>
      rw [holds_unique held' held] at proven'
      have he := proven.registered.symm.trans proven'.registered
      rw [Option.some.inj he]

/-- The result is a principal of the kind looked for, or a refusal because there is none. -/
def Settles (result : Except Http.Fault Client.Principal) (sought : Client.Principal → Prop) :
    Prop :=
  (∃ principal, sought principal ∧ result = .ok principal) ∨
    result = .error .unauthenticated ∧ ∀ principal, ¬ sought principal

theorem Settles.eq_ok_iff {result : Except Http.Fault Client.Principal}
    {sought : Client.Principal → Prop} (h : Settles result sought)
    (unique : ∀ p q, sought p → sought q → p = q) :
    result = .ok principal ↔ sought principal := by
  rcases h with ⟨found, hp, hr⟩ | ⟨hr, hn⟩
  · rw [hr, Except.ok.injEq]
    constructor
    · intro he; rw [← he]; exact hp
    · intro ho; exact unique found principal hp ho
  · rw [hr]
    exact ⟨fun h => absurd h (by simp), fun h => absurd h (hn principal)⟩

theorem Settles.eq_refusal {result : Except Http.Fault Client.Principal}
    {sought : Client.Principal → Prop} (h : Settles result sought)
    (hn : ∀ principal, ¬ sought principal) : result = .error .unauthenticated := by
  rcases h with ⟨found, hp, -⟩ | ⟨hr, -⟩
  · exact absurd hp (hn found)
  · exact hr

/-! ## The answer of one attempt -/

theorem conclude_result (channel : String) (outcome : Authentication.Outcome) :
    (conclude frame channel outcome).result =
      match outcome.result with
      | .error fault => .error (.ofAuthentication fault)
      | .ok none => .error .unauthenticated
      | .ok (some principal) => .ok principal := by
  unfold conclude
  cases outcome.result with
  | error fault => rfl
  | ok found => cases found <;> rfl

theorem conclude_eq_ok_iff {channel : String} {outcome : Authentication.Outcome} :
    (conclude frame channel outcome).result = .ok principal ↔
      outcome.result = .ok (some principal) := by
  rw [conclude_result]
  cases outcome.result with
  | error fault => simp
  | ok found => cases found <;> simp

/-- Who is recognised by the credentials of a header proves to be a confidential client. -/
theorem proven_of_byHeader
    (h : (byHeader frame (ofStores stores) credentials).result = .ok principal) :
    .configurations ∉ stores.down ∧ .secrets ∉ stores.down ∧
      ∃ client, Proven stores credentials client ∧ principal = .confidential client :=
  proves_of_authenticate (conclude_eq_ok_iff.mp h)

/-- With the stores at hand and every hash fit to be checked against, credentials either prove a
client or are refused. -/
theorem byHeader_of_checkable (frame : Frame) (clientsUp : .configurations ∉ stores.down)
    (secretsUp : .secrets ∉ stores.down)
    (checkable : Checkable stores credentials.clientId (Utf8.encode credentials.secret.toList)) :
    (∃ client, Proven stores credentials client ∧
        (byHeader frame (ofStores stores) credentials).result = .ok (.confidential client)) ∨
      (byHeader frame (ofStores stores) credentials).result = .error .unauthenticated ∧
        ∀ client, ¬ Proven stores credentials client := by
  unfold byHeader
  rw [conclude_result]
  rcases authenticate_of_checkable clientsUp secretsUp checkable with ⟨client, hp, hr⟩ | ⟨hr, hn⟩
  · left
    refine ⟨client, hp, ?_⟩
    rw [hr]
  · right
    refine ⟨?_, hn⟩
    rw [hr]

theorem byHeader_of_proven (frame : Frame) {client : Client.Configuration}
    (clientsUp : .configurations ∉ stores.down) (secretsUp : .secrets ∉ stores.down)
    (proven : Proven stores credentials client)
    (checkable : Checkable stores credentials.clientId (Utf8.encode credentials.secret.toList)) :
    (byHeader frame (ofStores stores) credentials).result = .ok (.confidential client) := by
  rcases byHeader_of_checkable frame clientsUp secretsUp checkable with ⟨other, hp, hr⟩ | ⟨-, hn⟩
  · have he := hp.registered.symm.trans proven.registered
    rw [Option.some.inj he] at hr
    exact hr
  · exact absurd proven (hn client)

/-- With the configurations at hand, an identifier is either that of a public client or refused. -/
theorem byIdentifier_of_up (frame : Frame) (clientsUp : .configurations ∉ stores.down)
    (clientId : String) :
    (∃ client, stores.clients.find clientId = some client ∧ client.kind = .publicClient ∧
        (conclude frame "client_id" (identify (ofStores stores) clientId)).result =
          .ok (.identified client)) ∨
      (conclude frame "client_id" (identify (ofStores stores) clientId)).result =
          .error .unauthenticated ∧
        ∀ client, stores.clients.find clientId = some client → client.kind ≠ .publicClient := by
  rw [conclude_result, identify_of_up clientsUp]
  cases hf : stores.clients.find clientId with
  | none =>
    right
    exact ⟨rfl, fun client hc => absurd hc (by simp)⟩
  | some client =>
    rw [Option.bind_some]
    by_cases hk : client.kind = .publicClient
    · left
      refine ⟨client, rfl, hk, ?_⟩
      rw [if_pos hk]
    · right
      refine ⟨?_, fun other ho => ?_⟩
      · rw [if_neg hk]
      · have he : client = other := Option.some.inj ho
        rw [← he]
        exact hk

/-! ## The two ways together -/

theorem ofRequest_of_error {fault : Basic.Fault}
    (h : Basic.read (frame.request.header? "authorization") = .error fault)
    (directory : Directory) :
    ofRequest frame directory form = unreadable frame fault := by
  unfold ofRequest
  rw [h]

theorem ofRequest_of_holds
    (h : Basic.Holds (frame.request.header? "authorization") credentials) (directory : Directory) :
    ofRequest frame directory form =
      match form.lookup "client_id" with
      | none => byHeader frame directory credentials
      | some _ => reject frame "ambiguous" "multiple_credentials" := by
  unfold ofRequest
  rw [Basic.read_of_holds h]
  cases form.lookup "client_id" <;> rfl

theorem ofRequest_of_not_isBasic
    (h : ¬ Basic.IsBasic (frame.request.header? "authorization")) (directory : Directory) :
    ofRequest frame directory form =
      match form.lookup "client_id" with
      | none => reject frame "none" "missing_credentials"
      | some clientId => conclude frame "client_id" (identify directory clientId) := by
  unfold ofRequest
  rw [Basic.read_of_not_isBasic h]
  cases form.lookup "client_id" <;> rfl

/-- Who is recognised in a token request as having presented a secret did so in the header, without
an identifier in the form, and both stores were asked. -/
theorem confidential_of_ofRequest {client : Client.Configuration}
    (h : (ofRequest frame (ofStores stores) form).result = .ok (.confidential client)) :
    .configurations ∉ stores.down ∧ .secrets ∉ stores.down ∧
      ∃ credentials, Basic.Holds (frame.request.header? "authorization") credentials ∧
        form.lookup "client_id" = none ∧ Proven stores credentials client := by
  rcases Basic.read_cases (frame.request.header? "authorization") with
    ⟨hb, -⟩ | ⟨credentials, hh, -⟩ | ⟨-, -, -, hr⟩ | ⟨-, -, -, hr⟩
  · rw [ofRequest_of_not_isBasic hb] at h
    cases hid : form.lookup "client_id" with
    | none => rw [hid] at h; exact absurd h (by simp [reject])
    | some clientId =>
      rw [hid] at h
      obtain ⟨other, ho⟩ := identified_of_identify (conclude_eq_ok_iff.mp h)
      exact absurd ho (by simp)
  · rw [ofRequest_of_holds hh] at h
    cases hid : form.lookup "client_id" with
    | none =>
      rw [hid] at h
      obtain ⟨hc, hs, other, hp, he⟩ := proven_of_byHeader h
      cases he
      exact ⟨hc, hs, credentials, hh, rfl, hp⟩
    | some clientId => rw [hid] at h; exact absurd h (by simp [reject])
  · rw [ofRequest_of_error hr] at h
    exact absurd h (by simp [unreadable, reject])
  · rw [ofRequest_of_error hr] at h
    exact absurd h (by simp [unreadable])

/-- The other direction: with the stores at hand, credentials that prove a client are enough. -/
theorem ofRequest_of_proven (frame : Frame) {client : Client.Configuration}
    (clientsUp : .configurations ∉ stores.down) (secretsUp : .secrets ∉ stores.down)
    (held : Basic.Holds (frame.request.header? "authorization") credentials)
    (single : form.lookup "client_id" = none) (proven : Proven stores credentials client)
    (checkable : Checkable stores credentials.clientId (Utf8.encode credentials.secret.toList)) :
    (ofRequest frame (ofStores stores) form).result = .ok (.confidential client) := by
  rw [ofRequest_of_holds held, single]
  exact byHeader_of_proven frame clientsUp secretsUp proven checkable

theorem ofConfidential_of_proven (frame : Frame) {client : Client.Configuration}
    (clientsUp : .configurations ∉ stores.down) (secretsUp : .secrets ∉ stores.down)
    (held : Basic.Holds (frame.request.header? "authorization") credentials)
    (proven : Proven stores credentials client)
    (checkable : Checkable stores credentials.clientId (Utf8.encode credentials.secret.toList)) :
    (ofConfidential frame (ofStores stores)).result = .ok (.confidential client) := by
  unfold ofConfidential
  rw [Basic.read_of_holds held]
  exact byHeader_of_proven frame clientsUp secretsUp proven checkable

theorem status_of_conclude {channel : String} {outcome : Authentication.Outcome}
    {fault : Http.Fault} (h : (conclude frame channel outcome).result = .error fault) :
    400 ≤ fault.status := by
  rw [conclude_result] at h
  cases hr : outcome.result with
  | error cause =>
    rw [hr] at h
    cases h
    cases cause with
    | unreachable store => show (400 : Int) ≤ 503; omega
    | check fault => show (400 : Int) ≤ 500; omega
  | ok found =>
    rw [hr] at h
    cases found with
    | none => cases h; decide
    | some principal => exact absurd h (by simp)

/-- What recognition ends in besides a principal is answered as a failure. -/
theorem status_of_ofRequest {directory : Directory} {fault : Http.Fault}
    (h : (ofRequest frame directory form).result = .error fault) : 400 ≤ fault.status := by
  unfold ofRequest at h
  cases hr : Basic.read (frame.request.header? "authorization") with
  | error cause =>
    rw [hr] at h
    cases cause <;> cases h <;> decide
  | ok found =>
    rw [hr] at h
    cases hid : form.lookup "client_id" with
    | none =>
      rw [hid] at h
      cases found with
      | none => cases h; decide
      | some credentials => exact status_of_conclude h
    | some clientId =>
      rw [hid] at h
      cases found with
      | none => exact status_of_conclude h
      | some credentials => cases h; decide

/-- Recognition in a token request fails closed: where not exactly one way is used, or that one does
not succeed, everybody is refused. -/
theorem ofRequest_settles (frame : Frame) (form : Form)
    (clientsUp : .configurations ∉ stores.down)
    (secretsUp : .secrets ∉ stores.down)
    (ascii : Basic.EncodedInAscii (frame.request.header? "authorization"))
    (checkable : HeldCheckable stores (frame.request.header? "authorization")) :
    Settles (ofRequest frame (ofStores stores) form).result
      (Recognises stores (frame.request.header? "authorization") form) := by
  unfold Settles
  rcases Basic.read_cases (frame.request.header? "authorization") with
    ⟨hb, -⟩ | ⟨credentials, hh, -⟩ | ⟨hb, -, hm, hr⟩ | ⟨-, hf, -, -⟩
  · -- No Basic credentials: an identifier in the form decides.
    rw [ofRequest_of_not_isBasic hb]
    cases hid : form.lookup "client_id" with
    | none =>
      right
      refine ⟨rfl, fun principal hp => ?_⟩
      cases hp with
      | byHeader held _ _ => exact hb held.1
      | byIdentifier _ given _ _ => rw [hid] at given; exact absurd given (by simp)
    | some clientId =>
      rcases byIdentifier_of_up frame clientsUp clientId with
        ⟨client, hc, hk, hr⟩ | ⟨hr, hn⟩
      · left
        exact ⟨_, .byIdentifier hb hid hc hk, hr⟩
      · right
        refine ⟨hr, fun principal hp => ?_⟩
        cases hp with
        | byHeader held _ _ => exact hb held.1
        | byIdentifier _ given registered kind =>
          rw [hid] at given
          cases given
          exact hn _ registered kind
  · -- Basic credentials: they decide, and an identifier beside them is one way too many.
    rw [ofRequest_of_holds hh]
    cases hid : form.lookup "client_id" with
    | none =>
      rcases byHeader_of_checkable frame clientsUp secretsUp
        (checkable credentials hh) with ⟨client, hp, hr⟩ | ⟨hr, hn⟩
      · left
        exact ⟨_, .byHeader hh hid hp, hr⟩
      · right
        refine ⟨hr, fun principal hp => ?_⟩
        cases hp with
        | byHeader held _ proven =>
          rw [holds_unique held hh] at proven
          exact hn _ proven
        | byIdentifier single _ _ _ => exact single hh.1
    | some clientId =>
      right
      refine ⟨rfl, fun principal hp => ?_⟩
      cases hp with
      | byHeader _ single _ => rw [hid] at single; exact absurd single (by simp)
      | byIdentifier single _ _ _ => exact single hh.1
  · -- A header that cannot be decoded is refused whatever the form holds.
    right
    rw [ofRequest_of_error hr]
    refine ⟨rfl, fun principal hp => ?_⟩
    cases hp with
    | byHeader held _ _ => exact hm _ held
    | byIdentifier single _ _ _ => exact single hb
  · exact absurd ascii hf

/-- Recognition in an introspection request fails closed as well. -/
theorem ofConfidential_settles (frame : Frame) (clientsUp : .configurations ∉ stores.down)
    (secretsUp : .secrets ∉ stores.down)
    (ascii : Basic.EncodedInAscii (frame.request.header? "authorization"))
    (checkable : HeldCheckable stores (frame.request.header? "authorization")) :
    Settles (ofConfidential frame (ofStores stores)).result
      (Confidential stores (frame.request.header? "authorization")) := by
  unfold Settles ofConfidential
  rcases Basic.read_cases (frame.request.header? "authorization") with
    ⟨hb, hr⟩ | ⟨credentials, hh, hr⟩ | ⟨-, -, hm, hr⟩ | ⟨-, hf, -, -⟩
  · -- No Basic credentials.
    right
    rw [hr]
    refine ⟨rfl, fun principal hp => ?_⟩
    cases hp with
    | byHeader held _ => exact hb held.1
  · -- Basic credentials, which the stores decide about.
    rw [hr]
    rcases byHeader_of_checkable frame clientsUp secretsUp
      (checkable credentials hh) with ⟨client, hp, hr⟩ | ⟨hr, hn⟩
    · left
      exact ⟨_, .byHeader hh hp, hr⟩
    · right
      refine ⟨hr, fun principal hp => ?_⟩
      cases hp with
      | byHeader held proven =>
        rw [holds_unique held hh] at proven
        exact hn _ proven
  · -- A Basic header that holds no credentials.
    right
    rw [hr]
    refine ⟨rfl, fun principal hp => ?_⟩
    cases hp with
    | byHeader held _ => exact hm _ held
  · exact absurd ascii hf

/-- Without an identifier in the form, a Basic header is treated in both ways alike, log calls
included. -/
theorem ofRequest_eq_ofConfidential
    (hb : Basic.IsBasic (frame.request.header? "authorization"))
    (single : form.lookup "client_id" = none) (directory : Directory) :
    ofRequest frame directory form = ofConfidential frame directory := by
  unfold ofRequest ofConfidential
  cases hr : Basic.read (frame.request.header? "authorization") with
  | error fault => rfl
  | ok found =>
    cases found with
    | none => exact absurd hb (Basic.read_eq_none_iff.mp hr)
    | some credentials => rw [single]

/-- For a header in ASCII and stores that answer, a token request is recognised exactly when one of
the two ways is used and succeeds, an introspection request exactly when its header alone succeeds,
and everything else is refused in the same words. -/
theorem recognition_decides (frame : Frame) (stores : Stores) (form : Form)
    (clientsUp : .configurations ∉ stores.down) (secretsUp : .secrets ∉ stores.down)
    (ascii : ∀ c ∈ ((frame.request.header? "authorization").getD "").toList, c.toNat < 0x80)
    (checkable : HeldCheckable stores (frame.request.header? "authorization")) :
    (∀ principal,
        (ofRequest frame (ofStores stores) form).result = .ok principal ↔
          Recognises stores (frame.request.header? "authorization") form principal) ∧
      ((∀ principal, ¬ Recognises stores (frame.request.header? "authorization") form principal) →
        (ofRequest frame (ofStores stores) form).result = .error .unauthenticated) ∧
      (∀ principal,
        (ofConfidential frame (ofStores stores)).result = .ok principal ↔
          Confidential stores (frame.request.header? "authorization") principal) ∧
      ((∀ principal, ¬ Confidential stores (frame.request.header? "authorization") principal) →
        (ofConfidential frame (ofStores stores)).result = .error .unauthenticated) ∧
      (Basic.IsBasic (frame.request.header? "authorization") →
        form.lookup "client_id" = none →
        ofRequest frame (ofStores stores) form = ofConfidential frame (ofStores stores)) := by
  have hascii := Basic.encodedInAscii_of_ascii ascii
  have hrequest := ofRequest_settles frame form clientsUp secretsUp hascii checkable
  have hconfidential := ofConfidential_settles frame clientsUp secretsUp hascii checkable
  exact ⟨fun _ => hrequest.eq_ok_iff fun _ _ => Recognises.unique, hrequest.eq_refusal,
    fun _ => hconfidential.eq_ok_iff fun _ _ => Confidential.unique, hconfidential.eq_refusal,
    fun hb single => ofRequest_eq_ofConfidential hb single (ofStores stores)⟩

/-- The confidential demo client is recognised by its secret. -/
theorem recognition_decides_demo :
    ∃ stores,
      Application.standard.startStores (List.replicate 8 1) ⟨4⟩ = .ok stores ∧
        ∀ principal,
          (ofRequest (.enter (Demo.request Demo.authorization "/token" "") Demo.fresh
              (.signedZero false)) (ofStores stores) []).result = .ok principal ↔
            principal = .confidential Demo.confidential := by
  obtain ⟨hash, hs, hv⟩ := Demo.startStores_standard
  refine ⟨_, hs, fun principal => ?_⟩
  let frame : Frame :=
    .enter (Demo.request Demo.authorization "/token" "") Demo.fresh (.signedZero false)
  have hheader : frame.request.header? "authorization" = some Demo.authorization :=
    Demo.header_request Demo.authorization "/token" ""
  have hascii : ∀ c ∈ ((frame.request.header? "authorization").getD "").toList,
      c.toNat < 0x80 := by
    rw [hheader]
    exact List.all_iff_forall_prop.mp (by decide)
  have hcheckable :
      HeldCheckable (Demo.stores ⟨4⟩ hash) (frame.request.header? "authorization") := by
    rw [hheader]
    intro credentials hc
    rw [holds_unique hc Demo.holds_authorization]
    exact Demo.checkable_confidential hv
  have hdecides := recognition_decides frame (Demo.stores ⟨4⟩ hash) [] List.not_mem_nil
    List.not_mem_nil hascii hcheckable
  rw [hdecides.1 principal, hheader]
  have hproven : Recognises (Demo.stores ⟨4⟩ hash) (some Demo.authorization) []
      (.confidential Demo.confidential) :=
    .byHeader Demo.holds_authorization rfl (Demo.proves_confidential hv)
  constructor
  · intro hp
    exact hp.unique hproven
  · rintro rfl
    exact hproven

end TokenIssuer.Service.Recognition
