import TokenIssuer.Client.Principal
import TokenIssuer.Grant.Refusal
import TokenIssuer.Http.Form

/-!
The grant for the password of the resource owner. The checks run in a fixed order and stop at the
first that fails; whether the client may use the grant comes first.
-/

namespace TokenIssuer.Grant.Password

open Http

structure Accepted where
  client : Client.Configuration
  username : String
  password : String
  scopes : Option (List String)
  deriving DecidableEq

/-- The client that may use the grant: a confidential one with this grant. -/
def authorize (principal : Client.Principal) : Except Refusal Client.Configuration :=
  match principal with
  | .confidential c =>
    if principal.mayUse .password then .ok c else .error (.notAuthorized .password)
  | .identified _ => .error (.notAuthorized .password)

def username (form : Form) : Except Refusal String :=
  match form.lookup "username" with
  | none => .error (.missing "username")
  | some name => if Text.allBlank name.toList then .error (.invalid "username") else .ok name

/-- The password in a form. It may be empty: that is a matter of the credentials. -/
def password (form : Form) : Except Refusal String :=
  match form.lookup "password" with
  | none => .error (.missing "password")
  | some password => .ok password

/-- The scopes a form asks for, all of which the client may be issued. -/
def scopes (registry : Scope.Registry) (principal : Client.Principal) (form : Form) :
    Except Refusal (Option (List String)) :=
  match registry.parse (form.lookup "scope") with
  | .error fault => .error (.scope fault)
  | .ok none => .ok none
  | .ok (some names) =>
    if names.all principal.mayBeIssued then .ok (some names) else .error .scopeNotPermitted

def validate (registry : Scope.Registry) (principal : Client.Principal) (form : Form) :
    Except Refusal Accepted := do
  let client ← authorize principal
  let username ← username form
  let password ← password form
  let scopes ← scopes registry principal form
  pure { client, username, password, scopes }

end TokenIssuer.Grant.Password
