import TokenIssuer.Proofs.Service.Pipeline

/-! Runs of the application: requests that are served, between changes of an administrator. -/

namespace TokenIssuer.Service

open Http Store

/-- What happens to an application. -/
inductive Step where
  | serve (request : Request) (fresh : Grant.Fresh) (seconds : Double)
  | change (change : Change)

namespace Application

/-- The state after a step. -/
def step (app : Application) (state : State Data) : Step → State Data
  | .serve request fresh seconds => (app.serve request fresh seconds state).state
  | .change change => { state with data := change.apply state.data }

/-- The state after all steps. -/
def run (app : Application) (state : State Data) (steps : List Step) : State Data :=
  steps.foldl app.step state

theorem data_step_serve (app : Application) (state : State Data) (request : Request)
    (fresh : Grant.Fresh) (seconds : Double) :
    (app.step state (.serve request fresh seconds)).data =
      (app.serve request fresh seconds state).state.data := rfl

theorem data_step_change (app : Application) (state : State Data) (change : Change) :
    (app.step state (.change change)).data = change.apply state.data := rfl

theorem run_nil (app : Application) (state : State Data) : app.run state [] = state := rfl

theorem run_cons (app : Application) (state : State Data) (step : Step) (steps : List Step) :
    app.run state (step :: steps) = app.run (app.step state step) steps := rfl

theorem run_append (app : Application) (state : State Data) (earlier later : List Step) :
    app.run state (earlier ++ later) = app.run (app.run state earlier) later :=
  List.foldl_append

end Application

end TokenIssuer.Service
