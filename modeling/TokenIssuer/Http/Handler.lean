import TokenIssuer.Http.Fault
import TokenIssuer.Grant.Exchange
import TokenIssuer.Metrics.Registry

/-!
Handlers: what takes a request and the state of a service and leaves an answer, a new state and a
trace of what was logged. Layers are put around handlers; what an outer layer notes down for the
inner ones travels in the frame of the request, and what inner ones note in the outcome.
-/

namespace TokenIssuer.Http

/-- A request on its way in, with what is known about it so far. -/
structure Frame where
  request : Request
  fresh : Grant.Fresh
  seconds : Double
  bound : Log.Fields
  noted : Option Json

def Frame.enter (request : Request) (fresh : Grant.Fresh) (seconds : Double) : Frame :=
  { request, fresh, seconds, bound := [], noted := none }

/-- What a service keeps: its counts, and data of its own. -/
structure State (α : Type) where
  registry : Metrics.Registry
  data : α

structure Span where
  name : String
  attributes : Log.Fields
  fault : Option Unexpected
  succeeded : Bool

structure Outcome (α : Type) where
  /-- The response, or the fault that passes outwards. -/
  answer : Except Unexpected Response
  state : State α
  logs : List Log.Entry
  spans : List Span
  route : Option String
  noted : Option Json
  /-- What is bound to log calls from then on, where the handler was called. -/
  bound : Log.Fields

abbrev Handler (α : Type) := Frame → State α → Outcome α

abbrev Layer (α : Type) := Handler α → Handler α

/-- What an endpoint leaves: a response or a fault, the state afterwards, and its log calls. -/
structure Reply (α : Type) where
  result : Except Fault Response
  state : State α
  calls : List Log.Call

abbrev Endpoint (α : Type) := Frame → State α → Reply α

/-- An endpoint that leaves the state alone and logs nothing. -/
def Endpoint.constant {α : Type} (result : Except Fault Response) : Endpoint α :=
  fun _ state => ⟨result, state, []⟩

end TokenIssuer.Http
