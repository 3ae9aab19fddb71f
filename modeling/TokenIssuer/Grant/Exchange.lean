import TokenIssuer.Grant.Password
import TokenIssuer.Log.Entry
import TokenIssuer.Store.Outage

/-!
The exchange of a grant for tokens: the grant is checked, the access token is stored, and what was
decided is logged.
-/

namespace TokenIssuer.Grant

open Http Store

structure Fresh where
  /-- The correlation id, in case the request brings none along. -/
  correlation : Uuid
  accessToken : Uuid
  refreshToken : Uuid

structure Issued where
  accessToken : Uuid
  expiresIn : Int
  refreshToken : Uuid
  /-- The scopes of the tokens as a text, if any were asked for. -/
  scope : Option String
  deriving DecidableEq

inductive Decision where
  | issued (tokens : Issued)
  | refused (refusal : Refusal)
  deriving DecidableEq

structure Rules where
  registry : Scope.Registry
  lifetime : Int

def accessToken (fresh : Fresh) (accepted : Password.Accepted) : AccessToken :=
  { id := fresh.accessToken, client := accepted.client.id, username := accepted.username,
    scopes := accepted.scopes }

def issuedTokens (rules : Rules) (fresh : Fresh) (accepted : Password.Accepted) : Issued :=
  { accessToken := fresh.accessToken, expiresIn := rules.lifetime,
    refreshToken := fresh.refreshToken, scope := accepted.scopes.map Scope.format }

def issuedCall (accepted : Password.Accepted) : Log.Call :=
  { method := .info, event := "access_token_issued"
    fields :=
      [("client_id", .str accepted.client.id.text),
       ("scope", Json.ofText? (accepted.scopes.map Scope.format))] }

def refusedCall (principal : Client.Principal) (grant : Client.Grant) (refusal : Refusal) :
    Log.Call :=
  { method := .info, event := "token_request_rejected"
    fields :=
      [("client_id", .str principal.id.text), ("grant_type", .str grant.name),
       ("error", .str refusal.code.text)] }

/-- What an exchange leaves: its decision and the stores after it, or the store that could not be
reached, and the log calls made on the way. -/
structure Exchange where
  result : Except Unreachable (Decision × Stores)
  calls : List Log.Call

def issue (rules : Rules) (fresh : Fresh) (stores : Stores) (accepted : Password.Accepted) :
    Exchange :=
  match stores.saveToken (accessToken fresh accepted) with
  | .error unreachable => ⟨.error unreachable, []⟩
  | .ok stores =>
    ⟨.ok (.issued (issuedTokens rules fresh accepted), stores), [issuedCall accepted]⟩

def exchange (rules : Rules) (fresh : Fresh) (stores : Stores) (principal : Client.Principal)
    (form : Form) : Exchange :=
  match form.lookup "grant_type" with
  | none => ⟨.ok (.refused (.missing "grant_type"), stores), []⟩
  | some raw =>
    match readType raw with
    | .error refusal => ⟨.ok (.refused refusal, stores), []⟩
    | .ok .password =>
      match Password.validate rules.registry principal form with
      | .error refusal =>
        ⟨.ok (.refused refusal, stores), [refusedCall principal .password refusal]⟩
      | .ok accepted => issue rules fresh stores accepted

end TokenIssuer.Grant
