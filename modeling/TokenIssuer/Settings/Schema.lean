import TokenIssuer.Scope
import TokenIssuer.Settings.Value

/-!
The settings of the service and their reading from a value. Sections and fields that are not there
take their defaults, and what is not known is passed over.
-/

namespace TokenIssuer

inductive Environment where
  | development
  | staging
  | production
  deriving DecidableEq, Repr

def Environment.choices : List (String × Environment) :=
  [("development", .development), ("staging", .staging), ("production", .production)]

def Environment.name (e : Environment) : String :=
  ((choices.find? (·.2 = e)).map (·.1)).getD ""

/-- The least level that is logged. -/
inductive LogLevel where
  | debug
  | info
  | warning
  | error
  | critical
  deriving DecidableEq, Repr

def LogLevel.choices : List (String × LogLevel) :=
  [("DEBUG", .debug), ("INFO", .info), ("WARNING", .warning), ("ERROR", .error),
   ("CRITICAL", .critical)]

def LogLevel.name (l : LogLevel) : String := ((choices.find? (·.2 = l)).map (·.1)).getD ""

def LogLevel.severity : LogLevel → Nat
  | .debug => 10
  | .info => 20
  | .warning => 30
  | .error => 40
  | .critical => 50

structure Settings where
  environment : Environment
  service : Phrase
  logLevel : LogLevel
  lifetime : Int
  scopes : List Phrase
  passes : Int
  memory : Int
  lanes : Int
  seedDemo : Bool
  /-- The realm that clients are asked to authenticate for. -/
  realm : Phrase
  deriving DecidableEq, Repr

namespace Settings

/-- A section: an object, or nothing at all. -/
def readSection (root : Json) (name model : String) : Checked Json :=
  match root.get? name with
  | none => .ok (.obj [])
  | some (.obj fields) => .ok (.obj fields)
  | some _ => Checked.under (.field name) (Checked.fail (.section model))

/-- A field of a section, or its default. -/
def readField {α : Type} (part : Json) (name : String) (default : α) (read : Json → Checked α) :
    Checked α :=
  match part.get? name with
  | none => .ok default
  | some value => Checked.under (.field name) (read value)

/-- The fields of a section, once it is known to be one. -/
def inSection {α : Type} (root : Json) (name model : String) (read : Json → Checked α) :
    Checked α :=
  match readSection root name model with
  | .error problems => .error problems
  | .ok part => Checked.under (.field name) (read part)

/-- A name that can stand in a scope text. -/
def isScopeName (name : Phrase) : Bool :=
  !name.chars.isEmpty && Text.trim name.chars == name.chars && !name.chars.contains ' '

/-- The known scopes: at least one, each with a name that can stand in a scope text. -/
def readScopes (value : Json) : Checked (List Phrase) :=
  match readTexts value with
  | .error problems => .error problems
  | .ok names =>
    if names.isEmpty then Checked.fail .noScopes
    else
      match names.find? fun name => !isScopeName name with
      | some name => Checked.fail (.scopeName name)
      | none => .ok names

def defaultScopes : List Phrase := [.plain "basic", .plain "read", .plain "write"]

def readApp (part : Json) : Checked (Environment × Phrase × LogLevel) :=
  Checked.both (readField part "environment" .development (readChoice Environment.choices))
    (Checked.both (readField part "service" (.plain "oauth-token-service") readText)
      (readField part "log_level" .info (readChoice LogLevel.choices)))

def readToken (part : Json) : Checked Int :=
  readField part "access_token_ttl_seconds" 7200 (readIntFrom 1)

def readScopeSection (part : Json) : Checked (List Phrase) :=
  readField part "valid_scopes" defaultScopes readScopes

def readHashing (part : Json) : Checked (Int × Int × Int) :=
  Checked.both (readField part "time_cost" 3 (readIntFrom 1))
    (Checked.both (readField part "memory_cost" 65536 (readIntFrom 8))
      (readField part "parallelism" 4 (readIntFrom 1)))

def readClients (part : Json) : Checked (Bool × Phrase) :=
  Checked.both (readField part "seed_demo_clients" true readBool)
    (readField part "realm" (.plain "oauth") readText)

/-- The settings a value holds. That the demo clients have the scope they need is checked last, once
everything else is in order. -/
def read (root : Json) : Checked Settings := do
  let ((environment, service, logLevel), lifetime, scopes, (passes, memory, lanes), seedDemo,
      realm) ←
    Checked.both (inSection root "app" "AppSettings" readApp)
      (Checked.both (inSection root "token" "TokenSettings" readToken)
        (Checked.both (inSection root "scopes" "ScopeSettings" readScopeSection)
          (Checked.both (inSection root "hashing" "HashingSettings" readHashing)
            (inSection root "clients" "ClientSettings" readClients))))
  let settings : Settings :=
    { environment, service, logLevel, lifetime, scopes, passes, memory, lanes, seedDemo, realm }
  if seedDemo && !scopes.contains (.plain "basic") then Checked.fail .demoScope else pure settings

/-- The registry of the known scopes. A scope text has characters only, so that no name with half of
a surrogate pair is ever asked for. -/
def registry (s : Settings) : Scope.Registry := .ofNames (s.scopes.filterMap Phrase.plain?)

/-- The settings as a value of the form they are read from. -/
def toJson (s : Settings) : Json :=
  .obj
    [("app", .obj [("environment", .str s.environment.name), ("service", .ofPhrase s.service),
        ("log_level", .str s.logLevel.name)]),
     ("token", .obj [("access_token_ttl_seconds", .int s.lifetime)]),
     ("scopes", .obj [("valid_scopes", .arr (s.scopes.map Json.ofPhrase))]),
     ("hashing", .obj [("time_cost", .int s.passes), ("memory_cost", .int s.memory),
        ("parallelism", .int s.lanes)]),
     ("clients", .obj [("seed_demo_clients", .bool s.seedDemo), ("realm", .ofPhrase s.realm)])]

end Settings

end TokenIssuer
