import TokenIssuer.Grant.Exchange
import TokenIssuer.Proofs.Result
import TokenIssuer.Proofs.Scope
import TokenIssuer.Proofs.Store

/-! What a form has to ask for, and what an exchange then leaves in the stores. -/

namespace TokenIssuer.Grant

open Http Store

variable {registry : Scope.Registry} {principal : Client.Principal} {form : Form}
  {accepted : Password.Accepted}

/-- The scopes a form asks for are fit to be issued to a client. -/
inductive AsksScopes (registry : Scope.Registry) (client : Client.Configuration) (form : Form) :
    Option (List String) → Prop where
  | absent (h : form.lookup "scope" = none) : AsksScopes registry client form none
  | given {raw : String} {names : List String} (h : form.lookup "scope" = some raw)
      (parsed : registry.parseText raw = .ok names)
      (permitted : ∀ name ∈ names, name ∈ client.scopes) :
      AsksScopes registry client form (some names)

/-- The form asks for the grant in favour of a client that may use it. -/
structure Asks (registry : Scope.Registry) (form : Form) (accepted : Password.Accepted) : Prop where
  allowed : .password ∈ accepted.client.grants
  username : form.lookup "username" = some accepted.username
  named : ∃ c ∈ accepted.username.toList, Text.isBlank c = false
  password : form.lookup "password" = some accepted.password
  scopes : AsksScopes registry accepted.client form accepted.scopes

theorem Asks.scope_ne_empty (h : Asks registry form accepted) {scope : String}
    (hs : accepted.scopes.map Scope.format = some scope) : scope ≠ "" := by
  have hscopes := h.scopes
  cases he : accepted.scopes with
  | none => rw [he] at hs; cases hs
  | some names =>
    rw [he] at hscopes hs
    cases hs
    cases hscopes with
    | given _ parsed _ => exact Scope.format_ne_empty parsed

theorem AsksScopes.parse {client : Client.Configuration} {scopes : Option (List String)}
    (h : AsksScopes registry client form scopes) :
    registry.parse (form.lookup "scope") = .ok scopes := by
  cases h with
  | absent ha => rw [ha]; rfl
  | given hg parsed _ => rw [hg, Scope.Registry.parse, parsed]; rfl

theorem AsksScopes.isSome_eq {client : Client.Configuration} {scopes : Option (List String)}
    (h : AsksScopes registry client form scopes) :
    scopes.isSome = (form.lookup "scope").isSome := by
  cases h with
  | absent ha => rw [ha]; rfl
  | given hg _ _ => rw [hg]; rfl

namespace Password

theorem authorize_eq_ok_iff {client : Client.Configuration} :
    authorize principal = .ok client ↔
      principal = .confidential client ∧ .password ∈ client.grants := by
  cases principal with
  | identified c => simp [authorize]
  | confidential c =>
    have hmay : (Client.Principal.confidential c).mayUse .password =
        decide (Client.Grant.password ∈ c.grants) := rfl
    unfold authorize
    simp only [hmay, decide_eq_true_eq, Client.Principal.confidential.injEq]
    by_cases h : Client.Grant.password ∈ c.grants
    · rw [if_pos h, Except.ok.injEq]
      constructor
      · rintro rfl; exact ⟨rfl, h⟩
      · exact And.left
    · rw [if_neg h]
      constructor
      · intro he; exact absurd he (by simp)
      · rintro ⟨rfl, hg⟩; exact absurd hg h

theorem username_eq_ok_iff {name : String} :
    username form = .ok name ↔
      form.lookup "username" = some name ∧ ∃ c ∈ name.toList, Text.isBlank c = false := by
  have hblank (s : String) :
      Text.allBlank s.toList = false ↔ ∃ c ∈ s.toList, Text.isBlank c = false := by
    unfold Text.allBlank
    rw [List.all_eq_false]
    simp only [Bool.not_eq_true]
  unfold username
  cases hu : form.lookup "username" with
  | none => simp
  | some found =>
    by_cases hb : Text.allBlank found.toList
    · simp only [hb, if_true, reduceCtorEq, Option.some.injEq, false_iff, not_and]
      rintro rfl hn
      rw [← hblank, hb] at hn
      exact absurd hn (by simp)
    · have hn := (hblank found).mp (Bool.eq_false_iff.mpr hb)
      simp only [hb, Option.some.injEq]
      rw [if_neg Bool.false_ne_true, Except.ok.injEq]
      constructor
      · rintro rfl; exact ⟨rfl, hn⟩
      · exact And.left

theorem password_eq_ok_iff {found : String} :
    password form = .ok found ↔ form.lookup "password" = some found := by
  unfold password
  cases form.lookup "password" <;> simp

theorem scopes_eq_ok_iff {client : Client.Configuration} {found : Option (List String)} :
    scopes registry (.confidential client) form = .ok found ↔
      AsksScopes registry client form found := by
  unfold scopes Scope.Registry.parse
  cases hs : form.lookup "scope" with
  | none =>
    simp only [Except.ok.injEq]
    constructor
    · rintro rfl; exact .absent hs
    · intro h
      cases h with
      | absent _ => rfl
      | given hg _ _ => rw [hs] at hg; exact absurd hg (by simp)
  | some raw =>
    cases hp : registry.parseText raw with
    | error fault =>
      simp only [Except.map, hp, reduceCtorEq, false_iff]
      intro h
      cases h with
      | absent ha => rw [hs] at ha; exact absurd ha (by simp)
      | given hg parsed _ =>
        rw [hs] at hg
        cases hg
        rw [hp] at parsed
        exact absurd parsed (by simp)
    | ok names =>
      have hall : names.all (Client.Principal.confidential client).mayBeIssued = true ↔
          ∀ name ∈ names, name ∈ client.scopes := by
        rw [List.all_eq_true]
        exact forall_congr' fun name => imp_congr_right fun _ => decide_eq_true_iff
      simp only [Except.map, hp]
      constructor
      · intro h
        split at h
        next hm => cases h; exact .given hs hp (hall.mp hm)
        next => exact absurd h (by simp)
      · intro h
        cases h with
        | absent ha => rw [hs] at ha; exact absurd ha (by simp)
        | given hg parsed permitted =>
          rw [hs] at hg
          cases hg
          rw [hp] at parsed
          cases parsed
          rw [if_pos (hall.mpr permitted)]

/-- The checks pass for a confidential client exactly when the form asks for the grant. -/
theorem validate_eq_ok_iff :
    validate registry principal form = .ok accepted ↔
      principal = .confidential accepted.client ∧ Asks registry form accepted := by
  unfold validate
  constructor
  · intro h
    obtain ⟨client, hc, h⟩ := bind_eq_ok_iff.mp h
    obtain ⟨name, hn, h⟩ := bind_eq_ok_iff.mp h
    obtain ⟨secret, hp, h⟩ := bind_eq_ok_iff.mp h
    obtain ⟨found, hs, h⟩ := bind_eq_ok_iff.mp h
    cases h
    obtain ⟨rfl, hallowed⟩ := authorize_eq_ok_iff.mp hc
    obtain ⟨hname, hnamed⟩ := username_eq_ok_iff.mp hn
    exact ⟨rfl, hallowed, hname, hnamed, password_eq_ok_iff.mp hp, scopes_eq_ok_iff.mp hs⟩
  · rintro ⟨rfl, h⟩
    rw [authorize_eq_ok_iff.mpr ⟨rfl, h.allowed⟩]
    refine bind_eq_ok_iff.mpr ⟨_, rfl, ?_⟩
    rw [username_eq_ok_iff.mpr ⟨h.username, h.named⟩]
    refine bind_eq_ok_iff.mpr ⟨_, rfl, ?_⟩
    rw [password_eq_ok_iff.mpr h.password]
    refine bind_eq_ok_iff.mpr ⟨_, rfl, ?_⟩
    rw [scopes_eq_ok_iff.mpr h.scopes]
    rfl

/-- No check refuses a grant type as one that is not supported. -/
theorem code_of_validate {refusal : Refusal}
    (h : validate registry principal form = .error refusal) :
    refusal.code ≠ .unsupportedGrantType := by
  unfold validate at h
  -- One check after the other; each has its own code.
  rcases bind_eq_error_iff.mp h with h | ⟨client, -, h⟩
  · unfold authorize at h
    split at h
    · split at h <;> cases h
      exact nofun
    · cases h
      exact nofun
  rcases bind_eq_error_iff.mp h with h | ⟨name, -, h⟩
  · unfold username at h
    split at h
    · cases h
      exact nofun
    · split at h <;> cases h
      exact nofun
  rcases bind_eq_error_iff.mp h with h | ⟨secret, -, h⟩
  · unfold password at h
    split at h <;> cases h
    exact nofun
  rcases bind_eq_error_iff.mp h with h | ⟨found, -, h⟩
  · unfold scopes at h
    split at h
    · cases h
      exact nofun
    · cases h
    · split at h <;> cases h
      exact nofun
  · cases h

end Password

/-! ## The label of a grant type -/

theorem typeLabel_of_read {raw : String} (h : readType raw = .ok .password) :
    typeLabel (some raw) = "password" := by
  unfold readType at h
  unfold typeLabel
  cases hof : Client.Grant.of? raw with
  | none => rw [hof] at h; cases h
  | some grant =>
    cases grant
    simp only [hof]
    rfl

theorem typeLabel_of_unread {raw : String} {refusal : Refusal} (h : readType raw = .error refusal) :
    typeLabel (some raw) = "unsupported" ∧ refusal.code = .unsupportedGrantType := by
  unfold readType at h
  unfold typeLabel
  cases hof : Client.Grant.of? raw with
  | none =>
    rw [hof] at h
    cases h
    simp only [hof]
    exact ⟨trivial, rfl⟩
  | some grant => rw [hof] at h; cases h

/-! ## Exchanges -/

theorem readType_eq_ok_iff {raw : String} : readType raw = .ok .password ↔ raw = "password" := by
  have hname : Client.Grant.password.name = "password" := rfl
  unfold readType Client.Grant.of?
  by_cases h : raw = "password"
  · rw [List.find?_cons_of_pos (by simpa [hname] using h.symm)]
    exact iff_of_true rfl h
  · rw [List.find?_cons_of_neg (by simpa [hname] using Ne.symm h)]
    simp [h]

variable {rules : Rules} {fresh : Fresh} {stores after : Stores}

/-- A form that asks for the grant in favour of the confidential client it came from gets tokens. -/
theorem exchange_of_asks (rules : Rules) (fresh : Fresh) (stores : Stores)
    (grant : form.lookup "grant_type" = some "password")
    (asks : Asks rules.registry form accepted) :
    exchange rules fresh stores (.confidential accepted.client) form =
      issue rules fresh stores accepted := by
  unfold exchange
  simp only [grant, readType_eq_ok_iff.mpr rfl, Password.validate_eq_ok_iff.mpr ⟨rfl, asks⟩]

theorem issue_of_up (rules : Rules) (fresh : Fresh) (accepted : Password.Accepted)
    (up : .tokens ∉ stores.down) :
    (issue rules fresh stores accepted).result =
      .ok (.issued (issuedTokens rules fresh accepted),
        { stores with tokens := stores.tokens.put (accessToken fresh accepted) }) := by
  have hsave : stores.saveToken (accessToken fresh accepted) =
      .ok { stores with tokens := stores.tokens.put (accessToken fresh accepted) } :=
    Stores.call_of_up up
  unfold issue
  rw [hsave]

/-- With the tokens at hand every request is decided on. -/
theorem exchange_of_up (rules : Rules) (fresh : Fresh) (principal : Client.Principal) (form : Form)
    (up : .tokens ∉ stores.down) :
    ∃ decision after, (exchange rules fresh stores principal form).result =
      .ok (decision, after) := by
  unfold exchange
  cases form.lookup "grant_type" with
  | none => exact ⟨_, _, rfl⟩
  | some raw =>
    simp only
    cases readType raw with
    | error refusal => exact ⟨_, _, rfl⟩
    | ok grant =>
      cases grant
      simp only
      cases Password.validate rules.registry principal form with
      | error refusal => exact ⟨_, _, rfl⟩
      | ok accepted => exact ⟨_, _, issue_of_up rules fresh accepted up⟩

/-- Either tokens are issued to a confidential client whose form asks for them, and the access token
is stored, or the request is refused and nothing is stored. -/
theorem of_exchange {decision : Decision}
    (h : (exchange rules fresh stores principal form).result = .ok (decision, after)) :
    (∃ accepted, principal = .confidential accepted.client ∧
        form.lookup "grant_type" = some "password" ∧ Asks rules.registry form accepted ∧
        .tokens ∉ stores.down ∧ decision = .issued (issuedTokens rules fresh accepted) ∧
        after = { stores with tokens := stores.tokens.put (accessToken fresh accepted) }) ∨
      (∃ refusal, decision = .refused refusal) ∧ after = stores := by
  unfold exchange at h
  cases hg : form.lookup "grant_type" with
  | none =>
    simp only [hg] at h
    cases h
    exact .inr ⟨⟨_, rfl⟩, rfl⟩
  | some raw =>
    simp only [hg] at h
    cases hr : readType raw with
    | error refusal =>
      simp only [hr] at h
      cases h
      exact .inr ⟨⟨_, rfl⟩, rfl⟩
    | ok grant =>
      cases grant
      simp only [hr] at h
      cases hv : Password.validate rules.registry principal form with
      | error refusal =>
        simp only [hv] at h
        cases h
        exact .inr ⟨⟨_, rfl⟩, rfl⟩
      | ok accepted =>
        simp only [hv] at h
        obtain ⟨hprincipal, hasks⟩ := Password.validate_eq_ok_iff.mp hv
        rw [readType_eq_ok_iff.mp hr]
        -- With the tokens out of reach there is no decision at all.
        by_cases up : .tokens ∈ stores.down
        · have hsave : stores.saveToken (accessToken fresh accepted) = .error ⟨.tokens⟩ := if_pos up
          simp only [issue, hsave] at h
          exact absurd h (by simp)
        · rw [issue_of_up rules fresh accepted up] at h
          cases h
          exact .inl ⟨accepted, hprincipal, rfl, hasks, up, rfl, rfl⟩

/-! ## What decides about a form -/

/-- The forms agree in the parameters of the grant; of the password it is enough that both have one
or neither does. -/
structure SameRequest (f g : Form) : Prop where
  grantType : f.lookup "grant_type" = g.lookup "grant_type"
  username : f.lookup "username" = g.lookup "username"
  password : (f.lookup "password").isSome = (g.lookup "password").isSome
  scope : f.lookup "scope" = g.lookup "scope"

/-- Of a password only whether it is there decides, and otherwise it is just kept. -/
theorem validate_of_sameRequest {f g : Form} (registry : Scope.Registry)
    (principal : Client.Principal) (h : SameRequest f g) :
    (∃ refusal, Password.validate registry principal f = .error refusal ∧
        Password.validate registry principal g = .error refusal) ∨
      ∃ accepted password, Password.validate registry principal f = .ok accepted ∧
        Password.validate registry principal g = .ok { accepted with password } := by
  have husername : Password.username g = Password.username f := by
    unfold Password.username
    rw [h.username]
  have hscopes : Password.scopes registry principal g = Password.scopes registry principal f := by
    unfold Password.scopes
    rw [h.scope]
  have hpassword := h.password
  unfold Password.validate
  rw [husername, hscopes]
  -- In the order of the checks; the first that fails ends both.
  cases Password.authorize principal with
  | error refusal => exact .inl ⟨refusal, rfl, rfl⟩
  | ok client =>
    cases Password.username f with
    | error refusal => exact .inl ⟨refusal, rfl, rfl⟩
    | ok name =>
      unfold Password.password
      cases hf : f.lookup "password" with
      | none =>
        rw [hf] at hpassword
        have hg : g.lookup "password" = none :=
          Option.isNone_iff_eq_none.mp (Option.isSome_eq_false_iff.mp hpassword.symm)
        rw [hg]
        exact .inl ⟨_, rfl, rfl⟩
      | some password =>
        rw [hf] at hpassword
        obtain ⟨password', hg⟩ := Option.isSome_iff_exists.mp hpassword.symm
        rw [hg]
        cases Password.scopes registry principal f with
        | error refusal => exact .inl ⟨refusal, rfl, rfl⟩
        | ok scopes => exact .inr ⟨_, password', rfl, rfl⟩

theorem exchange_of_sameRequest {f g : Form} (rules : Rules) (fresh : Fresh) (stores : Stores)
    (principal : Client.Principal) (h : SameRequest f g) :
    exchange rules fresh stores principal g = exchange rules fresh stores principal f := by
  unfold exchange
  rw [h.grantType]
  cases g.lookup "grant_type" with
  | none => rfl
  | some raw =>
    cases hr : readType raw with
    | error refusal => simp only [hr]
    | ok grant =>
      cases grant
      rcases validate_of_sameRequest rules.registry principal h with
        ⟨refusal, hf, hg⟩ | ⟨accepted, password, hf, hg⟩
      · simp only [hr, hf, hg]
      -- The password of an accepted request goes nowhere.
      · simp only [hr, hf, hg]
        rfl

end TokenIssuer.Grant
