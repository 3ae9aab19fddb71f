import TokenIssuer.Proofs.Service.Issuance

/-!
What a request may leave in the stores: nothing, or one access token, which is the one that its
caller is told.
-/

namespace TokenIssuer.Service

open Http Store

variable {app : Application} {request : Request} {fresh : Grant.Fresh} {seconds : Double}
  {state : State Data} {accepted : Grant.Password.Accepted}

/-- The response tells the caller the access token. -/
def Tells (response : Response) (token : AccessToken) : Prop :=
  ∃ fields, response.body = .json (.obj fields) ∧
    fields.lookup "access_token" = some (.str token.id.text)

theorem tells_issuedResponse (rules : Grant.Rules) (frame : Frame) (fresh : Grant.Fresh)
    (accepted : Grant.Password.Accepted) :
    Tells (dressed frame (issuedResponse rules fresh accepted))
      (Grant.accessToken fresh accepted) := by
  refine ⟨_, rfl, ?_⟩
  cases (Grant.issuedTokens rules fresh accepted).scope <;> rfl

theorem withToken_rows {stores : Stores} (new : stores.tokens.get? fresh.accessToken = none) :
    (withToken stores fresh accepted).tokens.rows =
      stores.tokens.rows ++ [Grant.accessToken fresh accepted] :=
  Table.rows_put_of_new new

theorem issues_of_issued {frame : Frame} {rules : Grant.Rules}
    (post : request.Is "POST" "/token")
    (h : (app.serve request fresh seconds state).response =
      some (dressed frame (issuedResponse rules fresh accepted))) :
    Issues app request fresh seconds state := by
  refine ⟨post, ?_⟩
  rw [h]
  rfl

/-- No request changes the configurations or the secrets. One that is answered with tokens adds the
access token its caller is told, under an identifier that was not used, behind the rows that were
there; any other leaves everything as it was. -/
theorem request_adds_told_token_or_nothing (app : Application) (state : State Data)
    (request : Request) (fresh : Grant.Fresh) (seconds : Double) :
    (app.serve request fresh seconds state).state.data.clients = state.data.clients ∧
      (app.serve request fresh seconds state).state.data.secrets = state.data.secrets ∧
      (Issues app request fresh seconds state →
        state.data.tokens.get? fresh.accessToken = none →
        ∃ response token,
          (app.serve request fresh seconds state).response = some response ∧
            Tells response token ∧
            (app.serve request fresh seconds state).state.data.tokens.rows =
              state.data.tokens.rows ++ [token]) ∧
      (¬ Issues app request fresh seconds state →
        (app.serve request fresh seconds state).state.data = state.data) := by
  rcases serve_cases app request fresh seconds state with
    ⟨hpost, form, credentials, accepted, -, -, hresponse, hdata⟩ | ⟨hnot, hdata⟩
  · rw [hdata]
    refine ⟨rfl, rfl, fun _ hnew => ?_, fun hnot => absurd (issues_of_issued hpost hresponse) hnot⟩
    exact ⟨_, Grant.accessToken fresh accepted, hresponse, tells_issuedResponse _ _ _ _,
      withToken_rows hnew⟩
  · rw [hdata]
    exact ⟨rfl, rfl, fun h => absurd h hnot, fun _ => rfl⟩

/-- The demo client is told the one token that is stored then. -/
theorem request_adds_told_token_demo :
    ∃ hash response token,
      (Application.standard.serve Demo.tokenRequest Demo.fresh (.signedZero false)
          ⟨.empty, Demo.stores ⟨4⟩ hash⟩).response = some response ∧
        Tells response token ∧
        (Application.standard.serve Demo.tokenRequest Demo.fresh (.signedZero false)
          ⟨.empty, Demo.stores ⟨4⟩ hash⟩).state.data.tokens.rows = [token] := by
  obtain ⟨hash, -, verified⟩ := Demo.startStores_standard
  obtain ⟨hresponse, -⟩ := serve_demo verified Demo.fresh (.signedZero false) .empty
  have hissues : Issues Application.standard Demo.tokenRequest Demo.fresh (.signedZero false)
      ⟨.empty, Demo.stores ⟨4⟩ hash⟩ := issues_of_issued ⟨rfl, .inl rfl⟩ hresponse
  obtain ⟨-, -, hadds, -⟩ := request_adds_told_token_or_nothing .standard
    ⟨.empty, Demo.stores ⟨4⟩ hash⟩ Demo.tokenRequest Demo.fresh (.signedZero false)
  obtain ⟨response, token, hsome, htells, hrows⟩ := hadds hissues rfl
  exact ⟨hash, response, token, hsome, htells, hrows⟩

end TokenIssuer.Service
