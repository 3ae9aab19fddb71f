import TokenIssuer.Http.Layer
import TokenIssuer.Http.Route

/-!
A service: routes, layers around them, and the policy for faults. A fault that reaches the outside
is logged and answered there, outside of all layers, and is raised all the same.
-/

namespace TokenIssuer.Http

structure Service (α : Type) where
  policy : Failure.Policy
  /-- The layers from the innermost to the outermost. -/
  layers : List (Layer α)
  routes : List (Route α)

structure Served (α : Type) where
  response : Option Response
  raised : Option Unexpected
  state : State α
  logs : List Log.Entry
  spans : List Span
  /-- What is bound to log calls from then on. -/
  bound : Log.Fields

namespace Service

variable {α : Type}

def handler (service : Service α) : Handler α :=
  service.layers.foldl (fun inner layer => layer inner) (router service.policy service.routes)

def serve (service : Service α) (frame : Frame) (state : State α) : Served α :=
  let outcome := service.handler frame state
  match outcome.answer with
  | .ok response =>
    { response := some response, raised := none, state := outcome.state, logs := outcome.logs
      spans := outcome.spans, bound := outcome.bound }
  | .error fault =>
    -- The layers have let go of what they had bound, so the call is made with what is left.
    match Failure.unexpectedCall frame.request outcome.noted fault with
    | .ok call =>
      { response := some (Failure.unexpectedResponse service.policy fault), raised := some fault
        state := outcome.state, logs := outcome.logs ++ Log.within outcome.bound [call]
        spans := outcome.spans, bound := outcome.bound }
    | .error other =>
      { response := none, raised := some other, state := outcome.state, logs := outcome.logs
        spans := outcome.spans, bound := outcome.bound }

end Service

end TokenIssuer.Http
