import TokenIssuer.Demo
import TokenIssuer.Http.Stack
import TokenIssuer.Service.Documentation
import TokenIssuer.Service.Endpoints
import TokenIssuer.Settings.Schema

/-!
The application: the service with its routes and layers as the settings want it, the state it starts
from, and the steps it can take.
-/

namespace TokenIssuer.Service

open Http Store

structure Application where
  settings : Settings
  documentation : Documentation
  rules : Grant.Rules
  hasher : Secret.Hasher

namespace Application

/-- Why there is no application, or no state for it to start from. -/
inductive Fault where
  /-- The service has the empty text for a name, and its pages need one. -/
  | untitled
  | scope (fault : Scope.Fault)
  | costs (fault : Secret.CostFault)
  /-- The secret of the demo client cannot be hashed. -/
  | hash (fault : Secret.Fault)
  deriving DecidableEq, Repr

def Fault.message : Fault → String
  | .untitled => "A title must be provided for OpenAPI, e.g.: 'My API'"
  | .scope fault => fault.message
  | .costs fault => fault.message
  | .hash fault => fault.message

def ofSettings (documentation : Documentation) (settings : Settings) :
    Except Fault Application :=
  if settings.service.codePoints.isEmpty then .error .untitled
  else do
    let hasher ←
      (Secret.Hasher.make settings.passes settings.memory settings.lanes).mapError .costs
    pure
      { settings, documentation, hasher
        rules := { registry := settings.registry, lifetime := settings.lifetime } }

def pageRoute (app : Application) (page : Page) : Route Data :=
  ⟨.plain page.path, ["GET", "HEAD"],
    .constant (app.documentation.result app.settings.service page)⟩

/-- The routes of the service besides those of its pages. -/
def routes (rules : Grant.Rules) : List (Route Data) :=
  [⟨.plain "/metrics", ["GET"], metricsEndpoint⟩,
   ⟨.plain "/token", ["POST"], tokenEndpoint rules⟩,
   ⟨.plain "/introspect", ["POST"], introspectEndpoint⟩,
   ⟨.plain "/health/live", ["GET"], liveEndpoint⟩,
   ⟨.plain "/health/ready", ["GET"], readyEndpoint⟩]

/-- The layers from the innermost to the outermost. -/
def layers : List (Layer Data) :=
  [Layer.tracing, Layer.logging, Layer.security Layer.defaultSecurity, Layer.metrics,
   Layer.correlation]

def service (app : Application) : Http.Service Data :=
  { policy := { environment := app.settings.environment.name, realm := app.settings.realm }
    layers, routes := Page.all.map app.pageRoute ++ routes app.rules }

/-- The stores the application starts from: with the demo clients, whose secret is hashed with a
salt and filed under an identifier, or empty. -/
def startStores (app : Application) (salt : List UInt8) (id : Uuid) : Except Fault Stores :=
  if app.settings.seedDemo then do
    let clients ← (Demo.configurations app.rules.registry).mapError .scope
    let secrets ← (Demo.secrets app.hasher salt id).mapError .hash
    pure { clients := .ofRows clients, secrets := .ofRows secrets, tokens := .empty, down := [] }
  else .ok .empty

def start (app : Application) (salt : List UInt8) (id : Uuid) : Except Fault (State Data) := do
  pure { registry := .empty, data := ← app.startStores salt id }

/-- Serves a request, for which identifiers are generated and which takes some seconds. -/
def serve (app : Application) (request : Request) (fresh : Grant.Fresh) (seconds : Double)
    (state : State Data) : Served Data :=
  app.service.serve (.enter request fresh seconds) state

end Application

/-- What an administrator may do to the stores. -/
inductive Change where
  | saveClient (configuration : Client.Configuration)
  | deleteClient (id : Client.Id)
  | saveSecret (secret : Store.Secret)
  | saveToken (token : AccessToken)
  | setDown (stores : List Name)

def Change.apply (stores : Stores) : Change → Stores
  | .saveClient configuration => { stores with clients := stores.clients.put configuration }
  | .deleteClient id => { stores with clients := stores.clients.erase id }
  | .saveSecret secret => { stores with secrets := stores.secrets.put secret }
  | .saveToken token => { stores with tokens := stores.tokens.put token }
  | .setDown down => { stores with down }

end TokenIssuer.Service
