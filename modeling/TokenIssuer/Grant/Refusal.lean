import TokenIssuer.Client.Configuration
import TokenIssuer.Scope

/-!
Why a token request is refused, with the code and the description the caller is told.
-/

namespace TokenIssuer.Grant

inductive Code where
  | invalidRequest
  | invalidClient
  | invalidGrant
  | invalidScope
  | unauthorizedClient
  | unsupportedGrantType
  deriving DecidableEq, Repr

def Code.text : Code → String
  | .invalidRequest => "invalid_request"
  | .invalidClient => "invalid_client"
  | .invalidGrant => "invalid_grant"
  | .invalidScope => "invalid_scope"
  | .unauthorizedClient => "unauthorized_client"
  | .unsupportedGrantType => "unsupported_grant_type"

def Code.all : List Code :=
  [.invalidRequest, .invalidClient, .invalidGrant, .invalidScope, .unauthorizedClient,
   .unsupportedGrantType]

def Code.of? (text : String) : Option Code := Code.all.find? fun c => c.text = text

inductive Refusal where
  | missing (parameter : String)
  | invalid (parameter : String)
  | unsupported (raw : String)
  | notAuthorized (grant : Client.Grant)
  | scope (fault : Scope.Fault)
  /-- Some scope is not one the client may be issued. -/
  | scopeNotPermitted
  deriving DecidableEq, Repr

namespace Refusal

def code : Refusal → Code
  | .missing _ => .invalidRequest
  | .invalid _ => .invalidRequest
  | .unsupported _ => .unsupportedGrantType
  | .notAuthorized _ => .unauthorizedClient
  | .scope _ => .invalidScope
  | .scopeNotPermitted => .invalidScope

def description : Refusal → String
  | .missing parameter => "missing parameter: " ++ parameter
  | .invalid parameter => "invalid parameter: " ++ parameter
  | .unsupported raw => "unsupported: " ++ raw
  | .notAuthorized grant => "client is not authorized to use grant type: " ++ grant.name
  | .scope fault => fault.message
  | .scopeNotPermitted => "requested scope is not permitted for this client"

end Refusal

def readType (raw : String) : Except Refusal Client.Grant :=
  match Client.Grant.of? raw with
  | some grant => .ok grant
  | none => .error (.unsupported raw)

/-- The label a grant type is counted under: its name if it is known, and otherwise one of two
words, so that callers cannot make labels of their own. -/
def typeLabel : Option String → String
  | none => "missing"
  | some raw =>
    match Client.Grant.of? raw with
    | some grant => grant.name
    | none => "unsupported"

end TokenIssuer.Grant
