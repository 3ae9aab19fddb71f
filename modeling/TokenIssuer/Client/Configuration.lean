import TokenIssuer.Text.Order
import TokenIssuer.Json.Literal

/-!
What is registered about a client: what it is, and what it may do and be issued.
-/

namespace TokenIssuer.Client

/-- The identifier of a client, any text but the empty one. -/
structure Id where
  text : String
  notEmpty : text ≠ ""
  deriving DecidableEq

def Id.of? (text : String) : Option Id := if h : text ≠ "" then some ⟨text, h⟩ else none

/-- Whether a client can keep a secret. -/
inductive Kind where
  | confidentialClient
  | publicClient
  deriving DecidableEq, Repr

def Kind.name : Kind → String
  | .confidentialClient => "confidential"
  | .publicClient => "public"

/-- What a client may do besides asking for tokens. -/
inductive Action where
  | introspect
  deriving DecidableEq, Repr

def Action.name : Action → String
  | .introspect => "introspect"

inductive Grant where
  | password
  deriving DecidableEq, Repr

def Grant.name : Grant → String
  | .password => "password"

def Kind.of? (name : String) : Option Kind :=
  [.confidentialClient, .publicClient].find? fun k : Kind => k.name = name

def Action.of? (name : String) : Option Action :=
  [.introspect].find? fun a : Action => a.name = name

def Grant.of? (name : String) : Option Grant := [.password].find? fun g : Grant => g.name = name

/-- What is registered about a client. The lists are sets. -/
structure Configuration where
  id : Id
  kind : Kind
  redirectUris : List String
  scopes : List String
  actions : List Action
  grants : List Grant
  deriving DecidableEq

inductive Fault where
  | emptyId
  | kind (shown : Json)
  | action (shown : Json)
  | grant (shown : Json)

def Fault.message : Fault → String
  | .emptyId => "Client ID must not be empty."
  | .kind shown => String.ofList (Json.literalChars shown) ++ " is not a valid ClientType"
  | .action shown => String.ofList (Json.literalChars shown) ++ " is not a valid ClientAction"
  | .grant shown => String.ofList (Json.literalChars shown) ++ " is not a valid GrantType"

def readId (text : String) : Except Fault Id :=
  match Id.of? text with
  | some id => .ok id
  | none => .error .emptyId

def readKind (shown : Json) : Except Fault Kind :=
  match shown.text?.bind Kind.of? with
  | some kind => .ok kind
  | none => .error (.kind shown)

def readAction (shown : Json) : Except Fault Action :=
  match shown.text?.bind Action.of? with
  | some action => .ok action
  | none => .error (.action shown)

def readGrant (shown : Json) : Except Fault Grant :=
  match shown.text?.bind Grant.of? with
  | some grant => .ok grant
  | none => .error (.grant shown)

/-- Reads a description field by field; the kind of a client is confidential unless it says
otherwise. -/
def Configuration.read (description : Json) : Except Fault Configuration := do
  let texts (name : String) : List String := (description.field name).items.filterMap (·.text?)
  let id ← readId ((description.field "client_id").text?.getD "")
  let kind ← readKind ((description.get? "type").getD (.str Kind.confidentialClient.name))
  let actions ← (description.field "actions").items.mapM readAction
  let grants ← (description.field "grants").items.mapM readGrant
  pure
    { id, kind, redirectUris := Text.setOf (texts "redirect_uris"),
      scopes := Text.setOf (texts "scopes"), actions := actions.eraseDups,
      grants := grants.eraseDups }

end TokenIssuer.Client
