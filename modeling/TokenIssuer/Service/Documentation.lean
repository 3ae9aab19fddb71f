import TokenIssuer.Http.Handler

/-!
The pages that describe the service: the schema of its routes, an explorer of it, the page the
explorer comes back to after a sign-in, and a reference. Their texts are not part of the service; it
only hands its name to what writes them.
-/

namespace TokenIssuer.Service

inductive Page where
  | schema
  | explorer
  | signIn
  | reference
  deriving DecidableEq, Repr

namespace Page

def all : List Page := [.schema, .explorer, .signIn, .reference]

theorem mem_all (page : Page) : page ∈ all := by cases page <;> decide

def path : Page → String
  | .schema => "/openapi.json"
  | .explorer => "/docs"
  | .signIn => "/docs/oauth2-redirect"
  | .reference => "/redoc"

def mediaType : Page → String
  | .schema => "application/json"
  | _ => "text/html; charset=utf-8"

/-- The page shows the name of the service. -/
def isTitled : Page → Bool
  | .signIn => false
  | _ => true

end Page

/-- What writes the pages, or says why it cannot. -/
structure Documentation where
  write : Page → Phrase → Except String String
  /-- Pages are sent as UTF-8, which has no bytes for half of a surrogate pair. Nothing else keeps a
  page from being written. -/
  writes_iff : ∀ page title,
    (∃ text, write page title = .ok text) ↔ page.isTitled = false ∨ ∃ text, title = .plain text

namespace Documentation

/-- Pages that hold the name of the service at most. -/
def bare : Documentation where
  write page title :=
    match page.isTitled, title with
    | false, _ => .ok ""
    | true, .plain text => .ok text
    | true, .torn _ => .error "surrogates not allowed"
  writes_iff page title := by
    cases page.isTitled <;> cases title <;> simp

def result (documentation : Documentation) (title : Phrase) (page : Page) :
    Except Http.Fault Http.Response :=
  match documentation.write page title with
  | .ok text => .ok (.plain text page.mediaType)
  | .error message => .error (.unexpected (.internal message))

end Documentation

end TokenIssuer.Service
