import TokenIssuer.Proofs.Service.Run

/-! The requests that were served in a run, and what is counted along it. -/

namespace TokenIssuer.Service

open Http Store

/-- A request that is served in some state. -/
structure Serving where
  state : State Data
  request : Request
  fresh : Grant.Fresh
  seconds : Double

namespace Serving

/-- What serving it leaves. -/
def served (app : Application) (s : Serving) : Served Data :=
  app.serve s.request s.fresh s.seconds s.state

/-- The frame in which it comes in. -/
def frame (s : Serving) : Frame := .enter s.request s.fresh s.seconds

end Serving

namespace Application

/-- The requests that are served in a run, in order. -/
def servings (app : Application) : State Data → List Step → List Serving
  | _, [] => []
  | state, .serve request fresh seconds :: steps =>
    ⟨state, request, fresh, seconds⟩ ::
      app.servings (app.step state (.serve request fresh seconds)) steps
  | state, .change change :: steps => app.servings (app.step state (.change change)) steps

/-- A number kept in the registry that grows by one with every request of a kind counts the requests
of that kind. -/
theorem count_run (app : Application) (number : Metrics.Registry → Nat) (kind : Serving → Bool)
    (grows : ∀ s : Serving, number (s.served app).state.registry =
      number s.state.registry + if kind s then 1 else 0)
    (start : State Data) (steps : List Step) :
    number (app.run start steps).registry =
      number start.registry + (app.servings start steps).countP kind := by
  -- The induction is on the steps. A change of an administrator leaves the registry alone.
  induction steps generalizing start with
  | nil => rfl
  | cons step steps ih =>
    rw [run_cons, ih]
    cases step with
    | serve request fresh seconds =>
      have hgrows : number (app.serve request fresh seconds start).state.registry =
          number start.registry + if kind ⟨start, request, fresh, seconds⟩ then 1 else 0 :=
        grows ⟨start, request, fresh, seconds⟩
      rw [servings, List.countP_cons, step, hgrows]
      omega
    | change change => rfl

theorem count_run_of (app : Application) (number : Metrics.Registry → Nat)
    {kind : Serving → Prop} [DecidablePred kind]
    (grows : ∀ s : Serving, number (s.served app).state.registry =
      number s.state.registry + if kind s then 1 else 0)
    (start : State Data) (steps : List Step) :
    number (app.run start steps).registry =
      number start.registry + (app.servings start steps).countP fun s => kind s := by
  apply count_run
  simp only [decide_eq_true_eq]
  exact grows

/-- What serving a request keeps true of the registry stays true in a run. -/
theorem registry_run_of_served (app : Application) {Holds : Metrics.Registry → Prop}
    (served : ∀ s : Serving, Holds s.state.registry → Holds (s.served app).state.registry)
    (start : State Data) (steps : List Step) (h : Holds start.registry) :
    Holds (app.run start steps).registry := by
  induction steps generalizing start with
  | nil => exact h
  | cons step steps ih =>
    rw [run_cons]
    refine ih _ ?_
    cases step with
    | serve request fresh seconds => exact served ⟨start, request, fresh, seconds⟩ h
    | change change => exact h

end Application

end TokenIssuer.Service
