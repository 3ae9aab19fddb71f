import TokenIssuer.Proofs.Service.Contract
import TokenIssuer.Proofs.Service.Logging

/-!
What accepted settings are good for. Each setting is checked by itself when they are read; whether
the application can be built of them, and works, also depends on how they fit together.
-/

namespace TokenIssuer.Service

open Http Store

variable {app : Application} {documentation : Documentation} {settings : Settings}
  {request : Request} {state : State Data} {fresh : Grant.Fresh} {seconds : Double}

/-! ## What is expected -/

/-- The request asks for a token of the demo scope, with the credentials of the confidential demo
client. -/
structure AsksForDemo (request : Request) : Prop where
  post : request.Is "POST" "/token"
  readable : request.addressFault? = none
  held : Basic.Holds (request.header? "authorization")
    ⟨Demo.confidentialId.text, Demo.confidentialSecret⟩
  form : ∃ form username password, Form.read request = .ok form ∧
    form.lookup "client_id" = none ∧ form.lookup "grant_type" = some "password" ∧
    form.lookup "username" = some username ∧
    (∃ c ∈ username.toList, Text.isBlank c = false) ∧
    form.lookup "password" = some password ∧ form.lookup "scope" = some Demo.scopeName

/-- The members of a body fit the schema for tokens that are given out. -/
structure FitsSchema (fields : List (String × Json)) : Prop where
  access : ∃ text, fields.lookup "access_token" = some (.str text)
  kind : fields.lookup "token_type" = some (.str "bearer")
  lifetime : ∃ seconds, fields.lookup "expires_in" = some (.int seconds) ∧ 1 ≤ seconds
  texts : ∀ name ∈ ["refresh_token", "scope", "state"], ∀ value, fields.lookup name = some value →
    ∃ text, value = .str text

/-- The application does what it is for: it hashes secrets and checks them, it starts, the demo
client is given its token where there is one, the body of tokens fits its schema, and no request
fails but for what it or a hash on file holds. -/
structure Operates (app : Application) : Prop where
  hashes {salt : List UInt8} (salted : 8 ≤ salt.length) {secret : Secret.Presented}
    (fits : secret.fits) (bytes : secret.toBytes.length ≤ 4096) :
    ∃ stored, app.hasher.hash salt secret = .ok stored ∧
      Secret.verify secret stored = .ok true ∧
      Secret.verify (.bytes secret.toBytes) stored = .ok true
  starts {salt : List UInt8} (salted : 8 ≤ salt.length) (id : Uuid) :
    ∃ stores, app.startStores salt id = .ok stores ∧
      (app.settings.seedDemo → ∀ request fresh seconds registry, AsksForDemo request →
        ∃ response, (app.serve request fresh seconds ⟨registry, stores⟩).response = some response ∧
          response.status = 200 ∧
          response.body = .json (givenBody fresh.accessToken fresh.refreshToken
            app.rules.lifetime (some Demo.scopeName)))
  payload (fresh : Grant.Fresh) (accepted : Grant.Password.Accepted) :
    ∃ fields, issuedBody (Grant.issuedTokens app.rules fresh accepted) = .obj fields ∧
      FitsSchema fields
  answers (request : Request) (fresh : Grant.Fresh) (seconds : Double) (state : State Data)
    (readable : request.addressFault? = none) :
    (app.serve request fresh seconds state).raised = none ∨
      Recognition.Foreign (request.header? "authorization") ∨
      ∃ credentials, Basic.Holds (request.header? "authorization") credentials ∧
        Recognition.Breaks state.data credentials

/-- The application can be built of the settings, and operates. -/
def Works (documentation : Documentation) (settings : Settings) : Prop :=
  ∃ app, Application.ofSettings documentation settings = .ok app ∧ Operates app

/-! ## The hasher -/

theorem make_succeeds_iff (passes : Int) {memory lanes : Int} (memoryAtLeast : 8 ≤ memory)
    (lanesAtLeast : 1 ≤ lanes) :
    (∃ hasher, Secret.Hasher.make passes memory lanes = .ok hasher) ↔
      8 * lanes ≤ memory ∧ memory < 0x100000000 ∧ lanes < 0x1000000 := by
  -- Memory and lanes are no less than the least there is, so neither is raised to it.
  have hlimits : (Secret.parametersOf (min 0xFFFFFFFF (max 1 passes.toNat)) (max 8 memory.toNat)
      (max 1 lanes.toNat)).inLimits ↔
        8 * lanes ≤ memory ∧ memory < 0x100000000 ∧ lanes < 0x1000000 := by
    unfold Secret.parametersOf Crypto.Argon2.Parameters.inLimits
    simp only [Bool.and_eq_true, decide_eq_true_eq]
    omega
  unfold Secret.Hasher.make
  simp only
  split
  next hlow => exact iff_of_false (by simp) (by omega)
  next =>
    split
    next hhigh => exact iff_of_false (by simp) (by omega)
    next =>
      split
      next hin => exact iff_of_true ⟨_, rfl⟩ (hlimits.mp hin)
      next hout => exact iff_of_false (by simp) fun h => hout (hlimits.mpr h)

theorem ofSettings_succeeds_iff (documentation : Documentation) (accepted : settings.Accepted) :
    (∃ app, Application.ofSettings documentation settings = .ok app) ↔
      settings.service.codePoints ≠ [] ∧ 8 * settings.lanes ≤ settings.memory ∧
        settings.memory < 0x100000000 ∧ settings.lanes < 0x1000000 := by
  rw [← make_succeeds_iff settings.passes accepted.memory accepted.lanes]
  constructor
  · rintro ⟨app, h⟩
    have hbuilt := Application.built_of_ofSettings h
    exact ⟨hbuilt.titled, _, hbuilt.hashing⟩
  · rintro ⟨hnamed, hasher, h⟩
    unfold Application.ofSettings
    rw [h, if_neg fun he => hnamed (List.isEmpty_iff.mp he)]
    exact ⟨_, rfl⟩

/-! ## The demo client -/

theorem tokens_scopeName : Scope.tokens Demo.scopeName = [Demo.scopeName] := by decide

theorem parseText_scopeName {registry : Scope.Registry} (known : registry.knows Demo.scopeName) :
    registry.parseText Demo.scopeName = .ok [Demo.scopeName] := by
  rw [Scope.Registry.parseText_eq_ok_iff, tokens_scopeName]
  refine ⟨List.cons_ne_nil _ _, fun name hname => ?_, by decide, by decide⟩
  rw [List.mem_singleton.mp hname]
  exact known

/-- The demo scope is known to the application of accepted settings with demo clients. -/
theorem knows_scopeName (accepted : settings.Accepted) (seeded : settings.seedDemo) :
    settings.registry.knows Demo.scopeName := by
  have hmem : Phrase.plain Demo.scopeName ∈ settings.scopes :=
    List.contains_iff_mem.mp (accepted.demo seeded)
  have hname : Demo.scopeName ∈ settings.registry.names := by
    show Demo.scopeName ∈ Text.setOf _
    rw [Text.mem_setOf]
    exact List.mem_filterMap.mpr ⟨_, hmem, rfl⟩
  exact decide_eq_true hname

/-- The demo client is given its token by the stores that an application starts with. -/
theorem issues_of_asksForDemo (known : app.rules.registry.knows Demo.scopeName) {id : Uuid}
    {hash : String}
    (verified : Secret.verify (.bytes (Utf8.encode Demo.confidentialSecret.toList)) hash =
      .ok true)
    (asks : AsksForDemo request) (fresh : Grant.Fresh) (seconds : Double)
    (registry : Metrics.Registry) :
    ∃ response,
      (app.serve request fresh seconds ⟨registry, Demo.stores id hash⟩).response = some response ∧
        response.status = 200 ∧
        response.body = .json (givenBody fresh.accessToken fresh.refreshToken
          app.rules.lifetime (some Demo.scopeName)) := by
  obtain ⟨form, username, password, hform, hsingle, hgrant, husername, hnamed, hpassword, hscope⟩ :=
    asks.form
  have hasks : Grant.Asks app.rules.registry form
      ⟨Demo.confidential, username, password, some [Demo.scopeName]⟩ :=
    { allowed := List.mem_singleton_self _, username := husername, named := hnamed
      password := hpassword
      scopes := .given hscope (parseText_scopeName known) fun _ h => h }
  have hgrantable : Grantable app.rules (Demo.stores id hash) request form
      ⟨Demo.confidentialId.text, Demo.confidentialSecret⟩
      ⟨Demo.confidential, username, password, some [Demo.scopeName]⟩ :=
    ⟨hform, asks.held, hsingle, Demo.proves_confidential verified, hgrant, hasks⟩
  obtain ⟨hserved, -⟩ := serve_of_grantable ⟨registry, Demo.stores id hash⟩ fresh seconds asks.post
    asks.readable (Demo.up_stores id hash) (Demo.checkable_confidential verified) hgrantable
  refine ⟨_, hserved, rfl, ?_⟩
  exact congrArg Body.json (issuedBody_eq _)

theorem startStores_of_unseeded (unseeded : app.settings.seedDemo = false) (salt : List UInt8)
    (id : Uuid) : app.startStores salt id = .ok .empty := by
  unfold Application.startStores
  rw [unseeded]
  rfl

/-! ## The payload -/

theorem fitsSchema_issuedBody (positive : 1 ≤ app.rules.lifetime) (fresh : Grant.Fresh)
    (accepted : Grant.Password.Accepted) :
    ∃ fields, issuedBody (Grant.issuedTokens app.rules fresh accepted) = .obj fields ∧
      FitsSchema fields := by
  rw [issuedBody_eq]
  refine ⟨_, rfl, ⟨_, rfl⟩, rfl, ⟨_, rfl, positive⟩, fun name hname value hvalue => ?_⟩
  -- Only the scope may be there or not, and nothing is called the state.
  simp only [List.mem_cons, List.not_mem_nil, or_false] at hname
  rcases hname with rfl | rfl | rfl
  · cases hvalue
    exact ⟨_, rfl⟩
  · cases hscope : (Grant.issuedTokens app.rules fresh accepted).scope with
    | none => rw [hscope] at hvalue; cases hvalue
    | some text => rw [hscope] at hvalue; cases hvalue; exact ⟨text, rfl⟩
  · cases hscope : (Grant.issuedTokens app.rules fresh accepted).scope with
    | none => rw [hscope] at hvalue; cases hvalue
    | some text => rw [hscope] at hvalue; cases hvalue

/-! ## Requests -/

theorem raised_eq_none_iff (app : Application) (readable : request.addressFault? = none)
    (fresh : Grant.Fresh) (seconds : Double) (state : State Data) :
    (app.serve request fresh seconds state).raised = none ↔
      ∃ own, (routed app (.enter request fresh seconds) state).answer = .ok own := by
  have hr : (Frame.enter request fresh seconds).request.addressFault? = none := readable
  unfold Application.serve
  rw [serve_eq_of_readable app _ state hr]
  cases (routed app (.enter request fresh seconds) state).answer with
  | ok own => exact iff_of_true rfl ⟨own, rfl⟩
  | error fault => exact iff_of_false (by simp) (by simp)

theorem raised_of_latin (latin : app.service.policy.Latin) {title : String}
    (named : app.settings.service = .plain title) (readable : request.addressFault? = none)
    (fresh : Grant.Fresh) (seconds : Double) (state : State Data) :
    (app.serve request fresh seconds state).raised = none ∨
      Recognition.Foreign (request.header? "authorization") ∨
      ∃ credentials, Basic.Holds (request.header? "authorization") credentials ∧
        Recognition.Breaks state.data credentials := by
  have hr : (Frame.enter request fresh seconds).request.addressFault? = none := readable
  by_cases hunhandled :
      Unhandled app state.data (inside (.enter request fresh seconds))
  · right
    cases hunhandled with
    | credentials _ _ foreign => exact .inl foreign
    | check _ _ held breaks => exact .inr ⟨_, held, breaks⟩
    | token _ _ _ realm => exact absurd latin realm
    | introspect _ _ _ realm => exact absurd latin realm
    | page _ _ torn => rw [named] at torn; cases torn
  · left
    rw [raised_eq_none_iff app readable]
    exact (routed_answers_iff app _ state hr).mpr hunhandled

/-- A token request without credentials. -/
def anonymousRequest : Request :=
  { method := "POST", path := "/token", query := ""
    headers := [("content-type", Form.expectedType)], body := [], peer := none }

theorem header_anonymousRequest : anonymousRequest.header? "authorization" = none := by decide

theorem read_anonymousRequest : Form.read anonymousRequest = .ok [] := by rfl

/-- Nobody is recognised in it. -/
theorem refused_anonymousRequest (stores : Stores) (fresh : Grant.Fresh) (seconds : Double) :
    (Recognition.ofRequest (inside (.enter anonymousRequest fresh seconds))
      (Authentication.ofStores stores) []).result = .error .unauthenticated := by
  have hheader : (inside (.enter anonymousRequest fresh seconds)).request.header? "authorization" =
      none := header_anonymousRequest
  have hbasic : ¬ Basic.IsBasic none := Basic.not_isBasic_of_blank rfl
  rw [← hheader] at hbasic
  rw [Recognition.ofRequest_of_not_isBasic hbasic]
  rfl

/-- That cannot be told for a realm that cannot be sent. -/
theorem unhandled_anonymousRequest (unsendable : ¬ app.service.policy.Latin)
    (stores : Stores) (fresh : Grant.Fresh) (seconds : Double) :
    Unhandled app stores (inside (.enter anonymousRequest fresh seconds)) := by
  have hpost : (inside (.enter anonymousRequest fresh seconds)).request.Is "POST" "/token" :=
    ⟨rfl, .inl rfl⟩
  have hread : Form.read (inside (.enter anonymousRequest fresh seconds)).request = .ok [] :=
    read_anonymousRequest
  exact .token hpost hread (refused_anonymousRequest stores fresh seconds) unsendable

/-! ## Accepted settings -/

theorem operates_of_built (accepted : settings.Accepted)
    (built : app.Built documentation settings) (latin : app.service.policy.Latin) {title : String}
    (named : app.settings.service = .plain title) : Operates app where
  hashes {salt} salted {secret} fits bytes := by
    obtain ⟨stored, hmade⟩ := app.hasher.exists_hash salted fits
    have hbytes : (Secret.Presented.bytes secret.toBytes).fits = true := decide_eq_true bytes
    -- The bytes of a text are the same secret, but may be presented up to a length only.
    have htext := Secret.verify_of_hash hmade (rfl : secret.toBytes = secret.toBytes)
    have hpresented := Secret.verify_of_hash hmade
      (rfl : (Secret.Presented.bytes secret.toBytes).toBytes = secret.toBytes)
    rw [fits] at htext
    rw [hbytes] at hpresented
    exact ⟨stored, hmade, htext, hpresented⟩
  starts {salt} salted id := by
    cases hseeded : app.settings.seedDemo with
    | false => exact ⟨_, startStores_of_unseeded hseeded salt id, fun h => absurd h (by simp)⟩
    | true =>
      have hknown : app.rules.registry.knows Demo.scopeName := by
        rw [built.ruled]
        exact knows_scopeName accepted (built.configured ▸ hseeded)
      obtain ⟨hash, hstarts, hverified⟩ := Demo.startStores_of_seeded app hseeded hknown salted id
      exact ⟨_, hstarts, fun _ request fresh seconds registry asks =>
        issues_of_asksForDemo hknown hverified asks fresh seconds registry⟩
  payload fresh issued := by
    have hpositive : 1 ≤ app.rules.lifetime := by
      rw [built.ruled]
      exact accepted.lifetime
    exact fitsSchema_issuedBody hpositive fresh issued
  answers request fresh seconds state readable :=
    raised_of_latin latin named readable fresh seconds state

theorem latin_of_operates (operates : Operates app) : app.service.policy.Latin := by
  by_contra hunsendable
  -- Failures are left to credentials only, and this request comes without any.
  have hbasic : ¬ Basic.IsBasic none := Basic.not_isBasic_of_blank rfl
  have hreadable : anonymousRequest.addressFault? = none := rfl
  have hr : (Frame.enter anonymousRequest Demo.fresh (.signedZero false)).request.addressFault? =
    none := hreadable
  have hunhandled := unhandled_anonymousRequest hunsendable Stores.empty Demo.fresh
    (.signedZero false)
  have hanswers := operates.answers anonymousRequest Demo.fresh (.signedZero false)
    ⟨.empty, .empty⟩ hreadable
  rw [header_anonymousRequest] at hanswers
  rcases hanswers with hraised | hforeign | ⟨credentials, hheld, -⟩
  · have hanswered := (raised_eq_none_iff app hreadable _ _ _).mp hraised
    exact (routed_answers_iff app _ _ hr).mp hanswered hunhandled
  · exact hbasic hforeign.1
  · exact hbasic hheld.1

/-- A request for a page with the name of the service on it. -/
def pageRequest : Request :=
  { method := "GET", path := "/docs", query := "", headers := [], body := [], peer := none }

theorem named_of_operates (operates : Operates app) :
    ∃ title, app.settings.service = .plain title := by
  have hbasic : ¬ Basic.IsBasic none := Basic.not_isBasic_of_blank rfl
  have hheader : pageRequest.header? "authorization" = none := rfl
  have hreadable : pageRequest.addressFault? = none := rfl
  have hanswers := operates.answers pageRequest Demo.fresh (.signedZero false) ⟨.empty, .empty⟩
    hreadable
  rw [hheader] at hanswers
  rcases hanswers with hraised | hforeign | ⟨credentials, hheld, -⟩
  · have hanswered := (raised_eq_none_iff app hreadable _ _ _).mp hraised
    -- The explorer shows the name, which is not written if part of it is torn.
    have hasks : AsksForPage pageRequest .explorer := ⟨.inl rfl, List.mem_cons_self⟩
    cases hname : app.settings.service with
    | plain title => exact ⟨title, rfl⟩
    | torn codePoints =>
      have htorn : app.settings.service.plain? = none := by rw [hname]; rfl
      exact absurd (.page hasks rfl htorn) ((routed_answers_iff app _ _ hreadable).mp hanswered)
  · exact absurd hforeign.1 hbasic
  · exact absurd hheld.1 hbasic

/-- Settings that are accepted from an environment and a file give an application that works exactly
when there are hashes at the costs, all of the realm is Latin-1, and the service has a name of
characters only. None of it is checked when the settings are read. -/
theorem accepted_settings_work_iff (documentation : Documentation) (settings : Settings)
    (environment : List (String × String)) (file : String)
    (loaded : Settings.load { arguments := .obj [], environment, file } = .ok settings) :
    Works documentation settings ↔
      (8 * settings.lanes ≤ settings.memory ∧ settings.memory < 0x100000000 ∧
          settings.lanes < 0x1000000) ∧
        (∀ n ∈ settings.realm.codePoints, n < 0x100) ∧
        ∃ title, settings.service = .plain title ∧ title ≠ "" := by
  obtain ⟨root, -, hread⟩ := Settings.of_load rfl loaded
  obtain ⟨haccepted, -⟩ := Settings.accepted_of_read hread
  have hrealm {app : Application} (built : app.Built documentation settings) :
      app.service.policy.realm = settings.realm := congrArg Settings.realm built.configured
  have hempty (title : String) : (Phrase.plain title).codePoints ≠ [] ↔ title ≠ "" := by
    simp [Phrase.codePoints]
  constructor
  · rintro ⟨app, happ, operates⟩
    -- What an application that operates tells of the settings it was made of.
    have hbuilt := Application.built_of_ofSettings happ
    have hlatin := latin_of_operates operates
    obtain ⟨title, hname⟩ := named_of_operates operates
    obtain ⟨hnamed, hcosts⟩ := (ofSettings_succeeds_iff documentation haccepted).mp ⟨app, happ⟩
    unfold Failure.Policy.Latin at hlatin
    rw [hrealm hbuilt] at hlatin
    rw [hbuilt.configured] at hname
    rw [hname, hempty] at hnamed
    exact ⟨hcosts, hlatin, title, hname, hnamed⟩
  · rintro ⟨hcosts, hlatin, title, hname, hnamed⟩
    rw [← hempty, ← hname] at hnamed
    obtain ⟨app, happ⟩ := (ofSettings_succeeds_iff documentation haccepted).mpr ⟨hnamed, hcosts⟩
    have hbuilt := Application.built_of_ofSettings happ
    -- The realm can be sent and the name written, so nothing can fail for a caller.
    have hsendable : app.service.policy.Latin := by
      unfold Failure.Policy.Latin
      rw [hrealm hbuilt]
      exact hlatin
    exact ⟨app, happ,
      operates_of_built haccepted hbuilt hsendable (hbuilt.configured.symm ▸ hname)⟩

/-- The service works as it comes. -/
theorem works_by_default :
    Settings.load (.ofEnvironment []) = .ok Settings.standard ∧ Works .bare Settings.standard :=
  ⟨rfl, (accepted_settings_work_iff .bare Settings.standard [] "" rfl).mpr
    ⟨by decide, List.all_iff_forall_prop.mp (by decide), "oauth-token-service", rfl, by decide⟩⟩

/-- The least memory there is, with the lanes as they come, is accepted but cannot be built with. -/
theorem least_memory_is_accepted_but_fails :
    Settings.load (.ofEnvironment [("HASHING__MEMORY_COST", "8")]) =
        .ok { Settings.standard with memory := 8 } ∧
      Application.ofSettings .bare { Settings.standard with memory := 8 } =
        .error (.costs (.lowMemory 8 4)) ∧
      ¬ Works .bare { Settings.standard with memory := 8 } := by
  have hbuilt : Application.ofSettings .bare { Settings.standard with memory := 8 } =
      .error (.costs (.lowMemory 8 4)) := by rfl
  refine ⟨by rfl, hbuilt, ?_⟩
  rintro ⟨app, built, -⟩
  rw [hbuilt] at built
  cases built

end TokenIssuer.Service
