import TokenIssuer.Proofs.Demo
import TokenIssuer.Proofs.Grant

/-!
Which check of a token request decides. Each check is stated on its own, so that a form may fail
several at once; the caller is told of the first of these in the order of the checks.
-/

namespace TokenIssuer.Grant

open Http Store

/-- The checks a token request has to pass. -/
inductive Check where
  | grantGiven
  | grantKnown
  | clientAuthorized
  | usernameGiven
  | usernameNotBlank
  | passwordGiven
  | scopeReadable
  | scopePermitted
  deriving DecidableEq, Repr

/-- What a caller is told whose form lacks a parameter. -/
def absence? (form : Form) (parameter : String) : Option (Code × String) :=
  if form.lookup parameter = none then some (.invalidRequest, "missing parameter: " ++ parameter)
  else none

namespace Check

/-- The checks in the order in which they are made. -/
def order : List Check :=
  [.grantGiven, .grantKnown, .clientAuthorized, .usernameGiven, .usernameNotBlank, .passwordGiven,
   .scopeReadable, .scopePermitted]

/-- What a caller is told by a check that fails, the other checks aside. -/
def objection? (registry : Scope.Registry) (principal : Client.Principal) (form : Form) :
    Check → Option (Code × String)
  | .grantGiven => absence? form "grant_type"
  | .grantKnown =>
    match form.lookup "grant_type" with
    | none => none
    | some raw =>
      if raw = "password" then none else some (.unsupportedGrantType, "unsupported: " ++ raw)
  | .clientAuthorized =>
    if principal.isConfidential ∧ .password ∈ principal.configuration.grants then none
    else some (.unauthorizedClient, "client is not authorized to use grant type: password")
  | .usernameGiven => absence? form "username"
  | .usernameNotBlank =>
    match form.lookup "username" with
    | none => none
    | some name =>
      if name.toList.all Text.isBlank then
        some (.invalidRequest, "invalid parameter: username")
      else none
  | .passwordGiven => absence? form "password"
  | .scopeReadable =>
    match registry.parse (form.lookup "scope") with
    | .error fault => some (.invalidScope, fault.message)
    | .ok _ => none
  | .scopePermitted =>
    match registry.parse (form.lookup "scope") with
    | .ok (some names) =>
      if ∀ name ∈ names, name ∈ principal.configuration.scopes then none
      else some (.invalidScope, "requested scope is not permitted for this client")
    | _ => none

end Check

/-- What the first check that fails tells the caller. -/
def firstObjection? (registry : Scope.Registry) (principal : Client.Principal) (form : Form) :
    Option (Code × String) :=
  Check.order.findSome? (Check.objection? registry principal form)

/-! ## What each step tells the caller -/

/-- What the caller is told of a refusal. -/
def Refusal.told (refusal : Refusal) : Code × String := (refusal.code, refusal.description)

/-- What the caller is told where a step ends the request. -/
def told? {α : Type} : Except Refusal α → Option (Code × String)
  | .error refusal => some refusal.told
  | .ok _ => none

section

variable {α β : Type} {x : Except Refusal α} {told : Code × String}

theorem told?_eq_none_iff : told? x = none ↔ ∃ a, x = .ok a := by
  cases x <;> simp [told?]

theorem told?_eq_some_iff : told? x = some told ↔ ∃ refusal, x = .error refusal ∧
    refusal.told = told := by
  cases x <;> simp [told?]

/-- A second step counts only where the first has a result, whatever that result is. -/
theorem told?_bind {f : α → Except Refusal β} {rest : Option (Code × String)}
    (h : ∀ a, x = .ok a → told? (f a) = rest) : told? (x >>= f) = (told? x).or rest := by
  cases x with
  | error refusal => rfl
  | ok a => exact h a rfl

end

theorem findSome?_cons_eq_or {α β : Type} (f : α → Option β) (a : α) (as : List α) :
    (a :: as).findSome? f = (f a).or (as.findSome? f) := by
  rw [List.findSome?_cons]
  cases f a <;> rfl

variable {registry : Scope.Registry} {principal : Client.Principal} {form other : Form}

theorem told?_authorize (registry : Scope.Registry) (principal : Client.Principal) (form : Form) :
    told? (Password.authorize principal) =
      Check.clientAuthorized.objection? registry principal form := by
  cases principal with
  | identified client => rfl
  | confidential client =>
    have hmay : (Client.Principal.confidential client).mayUse .password =
        decide (Client.Grant.password ∈ client.grants) := rfl
    unfold Password.authorize Check.objection?
    by_cases h : Client.Grant.password ∈ client.grants
    · rw [if_pos ⟨rfl, h⟩]
      simp only [hmay, h, decide_true, if_true]
      rfl
    · rw [if_neg fun hand => h hand.2]
      simp only [hmay, h, decide_false, Bool.false_eq_true, if_false]
      rfl

theorem told?_username (registry : Scope.Registry) (principal : Client.Principal) (form : Form) :
    told? (Password.username form) =
      (Check.usernameGiven.objection? registry principal form).or
        (Check.usernameNotBlank.objection? registry principal form) := by
  unfold Password.username Check.objection? absence?
  cases form.lookup "username" with
  | none => rfl
  | some name =>
    by_cases hblank : name.toList.all Text.isBlank
    · simp only [reduceCtorEq, if_false, if_true, Option.none_or, Text.allBlank, hblank]
      rfl
    · simp only [reduceCtorEq, if_false, Option.none_or, Text.allBlank, hblank]
      rfl

theorem told?_password (registry : Scope.Registry) (principal : Client.Principal) (form : Form) :
    told? (Password.password form) = Check.passwordGiven.objection? registry principal form := by
  unfold Password.password Check.objection? absence?
  cases form.lookup "password" <;> rfl

theorem told?_scopes (registry : Scope.Registry) (principal : Client.Principal) (form : Form) :
    told? (Password.scopes registry principal form) =
      (Check.scopeReadable.objection? registry principal form).or
        (Check.scopePermitted.objection? registry principal form) := by
  unfold Password.scopes Check.objection?
  cases registry.parse (form.lookup "scope") with
  | error fault => rfl
  | ok found =>
    cases found with
    | none => rfl
    | some names =>
      have hall : names.all principal.mayBeIssued ↔
          ∀ name ∈ names, name ∈ principal.configuration.scopes := by
        rw [List.all_eq_true]
        exact forall_congr' fun name => imp_congr_right fun _ => decide_eq_true_iff
      simp only [Option.none_or, hall]
      split <;> rfl

theorem told?_validate (registry : Scope.Registry) (principal : Client.Principal) (form : Form) :
    told? (Password.validate registry principal form) =
      (Check.order.drop 2).findSome? (Check.objection? registry principal form) := by
  have hvalidate : told? (Password.validate registry principal form) =
      (told? (Password.authorize principal)).or ((told? (Password.username form)).or
        ((told? (Password.password form)).or
          (told? (Password.scopes registry principal form)))) := by
    -- The last step only puts together what the others have found.
    refine told?_bind fun client _ => told?_bind fun name _ => told?_bind fun secret _ => ?_
    rw [← Option.or_none (o := told? (Password.scopes registry principal form))]
    exact told?_bind fun found _ => rfl
  rw [hvalidate, told?_authorize registry principal form, told?_username registry principal,
    told?_password registry principal, told?_scopes]
  simp only [Check.order, List.drop_succ_cons, List.drop_zero, findSome?_cons_eq_or,
    List.findSome?_nil, Option.or_none, Option.or_assoc]

theorem told?_readType (registry : Scope.Registry) (principal : Client.Principal) {raw : String}
    (h : form.lookup "grant_type" = some raw) :
    told? (readType raw) = Check.grantKnown.objection? registry principal form := by
  unfold Check.objection?
  simp only [h]
  by_cases hraw : raw = "password"
  · rw [if_pos hraw, readType_eq_ok_iff.mpr hraw]
    rfl
  · have hnone : Client.Grant.of? raw = none := by
      cases hof : Client.Grant.of? raw with
      | none => rfl
      | some grant =>
        cases grant
        have hread : readType raw = .ok .password := by simp only [readType, hof]
        exact absurd (readType_eq_ok_iff.mp hread) hraw
    rw [if_neg hraw, readType, hnone]
    rfl

/-! ## What becomes of the request -/

variable {rules : Rules} {fresh : Fresh} {stores : Stores} {told : Code × String}

theorem refused_of_firstObjection (fresh : Fresh) (stores : Stores)
    (h : firstObjection? rules.registry principal form = some told) :
    ∃ refusal, (exchange rules fresh stores principal form).result =
      .ok (.refused refusal, stores) ∧ refusal.told = told := by
  have hor : (absence? form "grant_type").or
      ((Check.grantKnown.objection? rules.registry principal form).or
        (told? (Password.validate rules.registry principal form))) = some told := by
    rw [told?_validate, ← h]
    simp only [firstObjection?, Check.order, List.drop_succ_cons, List.drop_zero,
      findSome?_cons_eq_or]
    rfl
  -- The steps are split as they are made; each that passes is left out of the objections.
  unfold exchange
  cases hg : form.lookup "grant_type" with
  | none =>
    rw [absence?, if_pos hg, Option.some_or] at hor
    exact ⟨_, rfl, Option.some.inj hor⟩
  | some raw =>
    rw [absence?, if_neg (by simp [hg]), Option.none_or, ← told?_readType _ _ hg] at hor
    cases hr : readType raw with
    | error refusal =>
      rw [hr] at hor
      exact ⟨refusal, by simp only [hr], Option.some.inj hor⟩
    | ok grant =>
      cases grant
      rw [hr, told?, Option.none_or] at hor
      obtain ⟨refusal, hv, htold⟩ := told?_eq_some_iff.mp hor
      exact ⟨refusal, by simp only [hr, hv], htold⟩

/-- What is left once no check fails: tokens with the configured lifetime and the scopes asked for,
the access token on file. -/
structure Success (rules : Rules) (fresh : Fresh) (stores : Stores) (principal : Client.Principal)
    (form : Form) (tokens : Issued) (after : Stores) : Prop where
  accessToken : tokens.accessToken = fresh.accessToken
  refreshToken : tokens.refreshToken = fresh.refreshToken
  expiresIn : tokens.expiresIn = rules.lifetime
  scope : ∃ names, rules.registry.parse (form.lookup "scope") = .ok names ∧
    tokens.scope = names.map Scope.format
  requested : tokens.scope.isSome = (form.lookup "scope").isSome
  stored : ∃ token, after = { stores with tokens := stores.tokens.put token } ∧
    token.id = fresh.accessToken ∧ token.client = principal.id ∧
    form.lookup "username" = some token.username ∧
    rules.registry.parse (form.lookup "scope") = .ok token.scopes

theorem issued_of_no_objection (fresh : Fresh) (up : .tokens ∉ stores.down)
    (h : firstObjection? rules.registry principal form = none) :
    ∃ tokens after, (exchange rules fresh stores principal form).result =
      .ok (.issued tokens, after) ∧ Success rules fresh stores principal form tokens after := by
  have hnone : ∀ check : Check, check.objection? rules.registry principal form = none := by
    have hall := List.findSome?_eq_none_iff.mp h
    intro check
    cases check <;> exact hall _ (by decide)
  have hvalidate : told? (Password.validate rules.registry principal form) = none := by
    rw [told?_validate, List.findSome?_eq_none_iff]
    exact fun check _ => hnone check
  obtain ⟨accepted, hv⟩ := told?_eq_none_iff.mp hvalidate
  obtain ⟨rfl, asks⟩ := Password.validate_eq_ok_iff.mp hv
  -- The two checks of the grant type leave a single text for it.
  have hgrant : form.lookup "grant_type" = some "password" := by
    have hgiven := hnone .grantGiven
    have hknown := hnone .grantKnown
    cases hg : form.lookup "grant_type" with
    | none => simp [Check.objection?, absence?, hg] at hgiven
    | some raw =>
      have hraw : raw = "password" := by simpa [Check.objection?, hg] using hknown
      rw [hraw]
  refine ⟨issuedTokens rules fresh accepted,
    { stores with tokens := stores.tokens.put (accessToken fresh accepted) }, ?_, rfl, rfl, rfl,
    ⟨accepted.scopes, asks.scopes.parse, rfl⟩, ?_,
    ⟨_, rfl, rfl, rfl, asks.username, asks.scopes.parse⟩⟩
  · rw [exchange_of_asks rules fresh stores hgrant asks, issue_of_up rules fresh accepted up]
  · exact (Option.isSome_map ..).trans asks.scopes.isSome_eq

/-- With the tokens at hand a request is refused for the first check that fails, and otherwise gets
its tokens; no parameter but those of the grant matters, and of the password only whether it is
there. -/
theorem exchange_tells_first_objection (rules : Rules) (fresh : Fresh)
    (principal : Client.Principal) (form : Form) (up : .tokens ∉ stores.down) :
    (∀ told, firstObjection? rules.registry principal form = some told →
      ∃ refusal, (exchange rules fresh stores principal form).result =
        .ok (.refused refusal, stores) ∧ refusal.code = told.1 ∧ refusal.description = told.2) ∧
    (firstObjection? rules.registry principal form = none →
      ∃ tokens after, (exchange rules fresh stores principal form).result =
        .ok (.issued tokens, after) ∧ Success rules fresh stores principal form tokens after) ∧
    ∀ other, SameRequest form other →
      exchange rules fresh stores principal other = exchange rules fresh stores principal form := by
  refine ⟨fun told h => ?_, issued_of_no_objection fresh up,
    fun other h => exchange_of_sameRequest rules fresh stores principal h⟩
  obtain ⟨refusal, hresult, rfl⟩ := refused_of_firstObjection fresh stores h
  exact ⟨refusal, hresult, rfl, rfl⟩

/-- A form with a blank user name, no password and an empty scope, from a client that is registered
as a confidential one: without a proof of it the client is the first objection, with one the user
name is. -/
theorem exchange_tells_first_objection_demo :
    let form : Form := [("grant_type", "password"), ("username", " \t"), ("scope", "")]
    let stores := Demo.stores ⟨4⟩ "unset"
    let outcome (principal : Client.Principal) (form : Form) :=
      (exchange Service.Application.standard.rules Demo.fresh stores principal form).result
    .tokens ∉ stores.down ∧
    (∃ refusal, outcome (.identified Demo.confidential) form = .ok (.refused refusal, stores) ∧
      refusal.code = .unauthorizedClient ∧
      refusal.description = "client is not authorized to use grant type: password") ∧
    (∃ refusal, outcome (.confidential Demo.confidential) form = .ok (.refused refusal, stores) ∧
      refusal.code = .invalidRequest ∧ refusal.description = "invalid parameter: username") ∧
    ∃ tokens after, outcome (.confidential Demo.confidential) Demo.tokenForm =
      .ok (.issued tokens, after) ∧ tokens.expiresIn = 7200 := by
  have up : .tokens ∉ (Demo.stores ⟨4⟩ "unset").down := (Demo.up_stores _ _).tokens
  refine ⟨up, (exchange_tells_first_objection _ _ _ _ up).1 (_, _) rfl,
    (exchange_tells_first_objection _ _ _ _ up).1 (_, _) rfl, ?_⟩
  obtain ⟨tokens, after, hresult, success⟩ :=
    (exchange_tells_first_objection Service.Application.standard.rules Demo.fresh
      (.confidential Demo.confidential) Demo.tokenForm up).2.1 rfl
  exact ⟨tokens, after, hresult, success.expiresIn⟩

end TokenIssuer.Grant
