import TokenIssuer.Proofs.Service.Issuance

/-!
Tokens that were given out stay on file, and nothing is ever filed under the identifier of a refresh
token, as long as identifiers are generated afresh.
-/

namespace TokenIssuer.Service

open Http Store

variable {app : Application} {given : List Uuid} {state : State Data} {request : Request}
  {fresh : Grant.Fresh} {seconds : Double} {token : AccessToken} {refresh : Uuid}
  {earlier later steps : List Step}

/-- The identifier was not given out, and no token is on file under it. -/
def Unused (given : List Uuid) (stores : Stores) (id : Uuid) : Prop :=
  id ∉ given ∧ stores.tokens.get? id = none

/-- A run in which tokens are issued under unused identifiers, and no administrator files a token
under one that was given out. The list is of the identifiers given out so far. -/
inductive Tidy (app : Application) : List Uuid → State Data → List Step → Prop where
  | done {given : List Uuid} {state : State Data} : Tidy app given state []
  | issue {given : List Uuid} {state : State Data} {request : Request} {fresh : Grant.Fresh}
      {seconds : Double} {later : List Step} (issues : Issues app request fresh seconds state)
      (access : Unused given state.data fresh.accessToken)
      (refresh : Unused given state.data fresh.refreshToken)
      (distinct : fresh.accessToken ≠ fresh.refreshToken)
      (rest : Tidy app (fresh.accessToken :: fresh.refreshToken :: given)
        (app.step state (.serve request fresh seconds)) later) :
      Tidy app given state (.serve request fresh seconds :: later)
  | quiet {given : List Uuid} {state : State Data} {request : Request} {fresh : Grant.Fresh}
      {seconds : Double} {later : List Step} (quiet : ¬ Issues app request fresh seconds state)
      (rest : Tidy app given (app.step state (.serve request fresh seconds)) later) :
      Tidy app given state (.serve request fresh seconds :: later)
  | file {given : List Uuid} {state : State Data} {token : AccessToken} {later : List Step}
      (unused : token.id ∉ given)
      (rest : Tidy app given (app.step state (.change (.saveToken token))) later) :
      Tidy app given state (.change (.saveToken token) :: later)
  | change {given : List Uuid} {state : State Data} {change : Change} {later : List Step}
      (other : ∀ token, change ≠ .saveToken token)
      (rest : Tidy app given (app.step state (.change change)) later) :
      Tidy app given state (.change change :: later)

theorem Tidy.drop (h : Tidy app given state (earlier ++ later)) :
    ∃ givenThen, Tidy app givenThen (app.run state earlier) later := by
  induction earlier generalizing given state with
  | nil => exact ⟨given, h⟩
  | cons step earlier ih =>
    rw [List.cons_append] at h
    cases h with
    | issue _ _ _ _ rest => exact ih rest
    | quiet _ rest => exact ih rest
    | file _ rest => exact ih rest
    | change _ rest => exact ih rest

/-- What issuing tokens once means for the rest of a tidy run. -/
theorem Tidy.of_issues (h : Tidy app given state (.serve request fresh seconds :: later))
    (issues : Issues app request fresh seconds state) :
    Unused given state.data fresh.refreshToken ∧ fresh.accessToken ≠ fresh.refreshToken ∧
      Tidy app (fresh.accessToken :: fresh.refreshToken :: given)
        (app.step state (.serve request fresh seconds)) later := by
  cases h with
  | issue _ _ refresh distinct rest => exact ⟨refresh, distinct, rest⟩
  | quiet quiet _ => exact absurd issues quiet

/-! ## What a run keeps -/

/-- A token is on file, and none under the identifier of its refresh token. -/
structure Keeps (token : AccessToken) (refresh : Uuid) (stores : Stores) : Prop where
  access : stores.tokens.get? token.id = some token
  refresh : stores.tokens.get? refresh = none

theorem Keeps.put {stores : Stores} (h : Keeps token refresh stores) {other : AccessToken}
    (ha : token.id ≠ other.id) (hr : refresh ≠ other.id) :
    Keeps token refresh { stores with tokens := stores.tokens.put other } where
  access := (Table.get?_put_of_ne ha stores.tokens).trans h.access
  refresh := (Table.get?_put_of_ne hr stores.tokens).trans h.refresh

theorem Keeps.of_tokens_eq {stores after : Stores} (h : Keeps token refresh stores)
    (he : after.tokens = stores.tokens) : Keeps token refresh after where
  access := by rw [he]; exact h.access
  refresh := by rw [he]; exact h.refresh

/-- The tokens on file are not touched by any other change. -/
theorem tokens_apply {change : Change} (other : ∀ token, change ≠ .saveToken token)
    (stores : Stores) : (change.apply stores).tokens = stores.tokens := by
  cases change with
  | saveToken token => exact absurd rfl (other token)
  | saveClient configuration => rfl
  | deleteClient id => rfl
  | saveSecret secret => rfl
  | setDown down => rfl

theorem Keeps.serve_quiet (h : Keeps token refresh state.data)
    (quiet : ¬ Issues app request fresh seconds state) :
    Keeps token refresh (app.step state (.serve request fresh seconds)).data := by
  rcases serve_cases app request fresh seconds state with
    ⟨hpost, form, credentials, accepted, -, -, hresponse, -⟩ | ⟨-, hdata⟩
  · have hissues : Issues app request fresh seconds state := ⟨hpost, by rw [hresponse]; rfl⟩
    exact absurd hissues quiet
  · rw [Application.data_step_serve, hdata]
    exact h

theorem Keeps.serve_issue (h : Keeps token refresh state.data)
    (ha : token.id ≠ fresh.accessToken) (hr : refresh ≠ fresh.accessToken) :
    Keeps token refresh (app.step state (.serve request fresh seconds)).data := by
  rw [Application.data_step_serve]
  rcases serve_cases app request fresh seconds state with
    ⟨-, form, credentials, accepted, -, -, -, hdata⟩ | ⟨-, hdata⟩
  · rw [hdata]
    exact h.put ha hr
  · rw [hdata]
    exact h

/-- What was given out is kept by every tidy run: later tokens have other identifiers. -/
theorem Keeps.run (h : Tidy app given state steps) (ha : token.id ∈ given) (hr : refresh ∈ given)
    (hk : Keeps token refresh state.data) : Keeps token refresh (app.run state steps).data := by
  -- The induction is on the run. What it carries along is that both identifiers were given out, so
  -- that no step files anything under them.
  induction h with
  | done => exact hk
  | issue _ access _ _ _ ih =>
    refine ih (List.mem_cons_of_mem _ (List.mem_cons_of_mem _ ha))
      (List.mem_cons_of_mem _ (List.mem_cons_of_mem _ hr)) ?_
    exact hk.serve_issue (ne_of_mem_of_not_mem ha access.1) (ne_of_mem_of_not_mem hr access.1)
  | quiet quiet _ ih => exact ih ha hr (hk.serve_quiet quiet)
  | file unused _ ih =>
    exact ih ha hr (hk.put (ne_of_mem_of_not_mem ha unused) (ne_of_mem_of_not_mem hr unused))
  | @change _ _ change _ other _ ih =>
    refine ih ha hr ?_
    rw [Application.data_step_change]
    exact hk.of_tokens_eq (tokens_apply other _)

/-- From the request that is answered with tokens on, a tidy run keeps them. -/
theorem Keeps.of_issues (tidy : Tidy app given state (.serve request fresh seconds :: later))
    (issues : Issues app request fresh seconds state) :
    ∃ form credentials accepted,
      Grantable app.rules state.data request form credentials accepted ∧
        (app.serve request fresh seconds state).response =
          some (dressed (.enter request fresh seconds)
            (issuedResponse app.rules fresh accepted)) ∧
        Keeps (Grant.accessToken fresh accepted) fresh.refreshToken
          (app.run state (.serve request fresh seconds :: later)).data := by
  obtain ⟨⟨-, hunused⟩, hdistinct, rest⟩ := tidy.of_issues issues
  rcases serve_cases app request fresh seconds state with
    ⟨-, form, credentials, accepted, hgrantable, -, hresponse, hdata⟩ | ⟨hquiet, -⟩
  · refine ⟨form, credentials, accepted, hgrantable, hresponse, ?_⟩
    rw [Application.run_cons]
    refine Keeps.run rest List.mem_cons_self (List.mem_cons_of_mem _ List.mem_cons_self) ?_
    rw [Application.data_step_serve, hdata]
    have hother : fresh.refreshToken ≠ (Grant.accessToken fresh accepted).id := Ne.symm hdistinct
    exact ⟨Table.get?_put_self state.data.tokens _,
      (Table.get?_put_of_ne hother state.data.tokens).trans hunused⟩
  · exact absurd issues hquiet

end TokenIssuer.Service
