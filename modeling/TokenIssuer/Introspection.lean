import TokenIssuer.Scope
import TokenIssuer.Store.Outage

/-!
Introspection: whether a text is an access token that was issued here, and what it was issued for.
-/

namespace TokenIssuer.Introspection

open Store

inductive Result where
  | inactive
  | active (clientId username : String) (scope : Option String)
  deriving DecidableEq

def Result.ofToken (token : AccessToken) : Result :=
  .active token.client.text token.username (token.scopes.map Scope.format)

def Result.isActive : Result → Bool
  | .inactive => false
  | .active .. => true

/-- Looks a text up, blanks around it aside. What is no identifier is no token. -/
def introspect (stores : Stores) (raw : String) : Except Unreachable Result :=
  match Uuid.read? (Text.trim raw.toList) with
  | none => .ok .inactive
  | some id =>
    match stores.getToken id with
    | .error unreachable => .error unreachable
    | .ok none => .ok .inactive
    | .ok (some token) => .ok (.ofToken token)

end TokenIssuer.Introspection
