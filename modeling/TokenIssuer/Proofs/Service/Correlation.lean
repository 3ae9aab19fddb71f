import TokenIssuer.Proofs.Demo
import TokenIssuer.Proofs.Http.Correlation
import TokenIssuer.Proofs.Http.Headers
import TokenIssuer.Proofs.Service.History
import TokenIssuer.Proofs.Service.Logging

/-!
The correlation id of a request is in all that is logged of it and in its response, and is bound no
longer when the request is through, so that it is not taken over by the requests that follow.
-/

namespace TokenIssuer.Service

open Http Store

variable {app : Application} {id : String}

/-! ## Log entries -/

/-- The correlation ids of a log entry: the one bound around its call and the one among its
fields. -/
def correlations (entry : Log.Entry) : List Json :=
  (entry.context.lookup "correlation_id").toList ++
    (entry.call.fields.lookup "correlation_id").toList

/-- The entry tells a correlation id, and no other one. -/
def TracedBy (id : String) (entry : Log.Entry) : Prop :=
  correlations entry ≠ [] ∧ ∀ told ∈ correlations entry, told = .str id

theorem TracedBy.of_context {entry : Log.Entry}
    (bound : entry.context.lookup "correlation_id" = some (.str id))
    (field : ∀ told, entry.call.fields.lookup "correlation_id" = some told → told = .str id) :
    TracedBy id entry := by
  unfold TracedBy correlations
  rw [bound]
  refine ⟨List.cons_ne_nil _ _, fun told htold => ?_⟩
  rcases List.mem_cons.mp htold with rfl | hfield
  · rfl
  · exact field told (Option.mem_toList.mp hfield)

theorem TracedBy.of_field {entry : Log.Entry}
    (unbound : entry.context.lookup "correlation_id" = none)
    (field : entry.call.fields.lookup "correlation_id" = some (.str id)) : TracedBy id entry := by
  unfold TracedBy correlations
  rw [unbound, field]
  exact ⟨List.cons_ne_nil _ _, fun told htold => List.mem_singleton.mp htold⟩

/-- The id noted for a request is the one that its audit events tell, as it is not empty. -/
theorem auditCorrelation_noted (request : Request) (nonempty : id ≠ "") :
    request.auditCorrelation (some (.str id)) = id := by
  have htrue : Json.isTrue (.str id) = true := bne_iff_ne.mpr nonempty
  unfold Request.auditCorrelation
  rw [Option.filter_some_pos htrue]
  rfl

theorem correlationIdOf_ne_empty (frame : Frame) : Layer.correlationIdOf frame ≠ "" := by
  intro h
  have hvalid := (identified_correlationIdOf frame).valid
  rw [h] at hvalid
  exact absurd hvalid.nonempty (by decide)

/-- A call made for a request tells the id of the request if it tells one. -/
theorem told_of_made {frame : Frame} {call : Log.Call} (h : Made (inside frame) call) (told : Json)
    (field : call.fields.lookup "correlation_id" = some told) :
    told = .str (Layer.correlationIdOf frame) := by
  cases h with
  | audit event known =>
    have htold : .str ((inside frame).request.auditCorrelation (inside frame).noted) = told :=
      Option.some.inj field
    rw [← htold]
    exact congrArg Json.str (auditCorrelation_noted _ (correlationIdOf_ne_empty frame))
  | orphan secret => cases field
  | issued accepted => cases field
  | refused principal grant refusal => cases field
  | unauthenticated reported =>
    exact Option.some.inj (field.symm.trans (Failure.of_report reported).2)
  | unreachable reported =>
    exact Option.some.inj (field.symm.trans (Failure.of_report reported).2)

theorem lookup_completed (frame : Frame) (answer : Except Unexpected Response) :
    (Layer.completedCall frame answer).fields.lookup "correlation_id" = none := by
  cases answer <;> rfl

/-- Every entry of a request tells its id: the ones made inside by what is bound to them, the one
for a fault that nothing was prepared for by a field. -/
theorem tracedBy_serve (app : Application) (frame : Frame) (state : State Data) :
    ∀ entry ∈ (app.service.serve frame state).logs,
      TracedBy (Layer.correlationIdOf frame) entry := by
  intro entry hentry
  cases hreadable : frame.request.addressFault? with
  | some fault =>
    rw [serve_eq_of_address app frame state hreadable] at hentry
    exact absurd hentry List.not_mem_nil
  | none =>
    rw [serve_eq_of_readable app frame state hreadable] at hentry
    simp only [Log.within, List.mem_append, List.mem_map] at hentry
    rcases hentry with ⟨call, hcall, rfl⟩ | ⟨call, hcall, rfl⟩
    -- What is called inside has the id bound around it.
    · refine .of_context (Assoc.lookup_put_self _ _ _) fun told htold => ?_
      rcases hcall with hmade | hcompleted
      · exact told_of_made (allMade_routedCalls app frame state call hmade) told htold
      · rw [List.mem_singleton.mp hcompleted] at htold
        rw [lookup_completed] at htold
        cases htold
    -- The call for an unexpected fault is made outside, with the id noted for the request.
    · refine .of_field (Assoc.lookup_erase_self _ _) ?_
      cases hanswer : (routed app frame state).answer with
      | ok response =>
        rw [hanswer] at hcall
        exact absurd hcall List.not_mem_nil
      | error fault =>
        rw [hanswer] at hcall
        rw [List.mem_singleton.mp hcall, routed_noted]
        rfl

/-! ## Responses -/

theorem correlation_of_response {frame : Frame} {state : State Data} {response : Response}
    (h : (app.service.serve frame state).response = some response) :
    ∀ value, (Request.correlationHeader, value) ∈ response.headers →
      value = Layer.correlationIdOf frame := by
  intro value hvalue
  cases hreadable : frame.request.addressFault? with
  | some fault =>
    rw [serve_eq_of_address app frame state hreadable] at h
    cases h
  | none =>
    rw [serve_eq_of_readable app frame state hreadable] at h
    obtain rfl := Option.some.inj h
    cases hanswer : (routed app frame state).answer with
    | ok answer =>
      rw [hanswer] at hvalue
      exact Headers.eq_of_mem_set hvalue
    | error fault =>
      rw [hanswer] at hvalue
      have hother : Request.correlationHeader ≠ "content-type" := by decide
      exact absurd (congrArg Prod.fst (List.mem_singleton.mp hvalue)) hother

/-! ## Requests one after the other -/

theorem bound_serve (app : Application) (frame : Frame) (state : State Data) :
    (app.service.serve frame state).bound = released frame := by
  cases hreadable : frame.request.addressFault? with
  | some fault => rw [serve_eq_of_address app frame state hreadable]
  | none => rw [serve_eq_of_readable app frame state hreadable]

/-- A request that is served while some fields are bound to log calls. -/
structure Visit extends Serving where
  bound : Log.Fields

namespace Visit

def frame (v : Visit) : Frame := { v.toServing.frame with bound := v.bound }

def served (app : Application) (v : Visit) : Served Data := app.service.serve v.frame v.state

def correlationId (v : Visit) : String := Layer.correlationIdOf v.frame

/-- The request has one id, which is in its log and its response and which is bound no longer when
the request is through; nothing else that was bound changes. -/
structure Correlated (app : Application) (v : Visit) : Prop where
  identified : Identified v.request.correlationValue v.fresh.correlation v.correlationId
  valid : IsCorrelationId v.correlationId.toList
  logged : ∀ entry ∈ (v.served app).logs, TracedBy v.correlationId entry
  answered : ∀ response, (v.served app).response = some response →
    ∀ value, (Request.correlationHeader, value) ∈ response.headers → value = v.correlationId
  released : (v.served app).bound.lookup "correlation_id" = none
  kept : ∀ name ≠ "correlation_id", (v.served app).bound.lookup name = v.bound.lookup name

theorem served_bound (app : Application) (v : Visit) :
    (v.served app).bound = Assoc.erase "correlation_id" v.bound :=
  bound_serve app v.frame v.state

theorem correlated (app : Application) (v : Visit) : v.Correlated app where
  identified := identified_correlationIdOf v.frame
  valid := (identified_correlationIdOf v.frame).valid
  logged := tracedBy_serve app v.frame v.state
  answered _ := correlation_of_response
  released := by rw [served_bound, Assoc.lookup_erase_self]
  kept name h := by rw [served_bound, Assoc.lookup_erase_of_ne h]

/-- Nothing of the id of an earlier request is left over for a later one. -/
structure Apart (app : Application) (earlier later : Visit) : Prop where
  unbound : later.bound.lookup "correlation_id" = none
  untold : earlier.correlationId ≠ later.correlationId →
    ∀ entry ∈ (later.served app).logs, .str earlier.correlationId ∉ correlations entry

theorem apart_of_unbound {earlier later : Visit}
    (unbound : later.bound.lookup "correlation_id" = none) : Apart app earlier later where
  unbound := unbound
  untold differs entry hentry htold := by
    have hown := ((later.correlated app).logged entry hentry).2 _ htold
    exact differs (Json.str.inj hown)

end Visit

namespace Application

/-- The requests of a run, in order, each with what is bound when it comes in. -/
def visits (app : Application) : Log.Fields → State Data → List Step → List Visit
  | _, _, [] => []
  | bound, state, .serve request fresh seconds :: steps =>
    let visit : Visit := { state, request, fresh, seconds, bound }
    visit :: app.visits (visit.served app).bound (visit.served app).state steps
  | bound, state, .change change :: steps =>
    app.visits bound (app.step state (.change change)) steps

theorem bound_of_mem_visits (app : Application) {bound : Log.Fields} {state : State Data}
    {steps : List Step} (unbound : bound.lookup "correlation_id" = none) :
    ∀ v ∈ app.visits bound state steps, v.bound = bound := by
  -- A request leaves bound what it found, as there was no id to erase but its own.
  induction steps generalizing state with
  | nil => exact fun v hv => absurd hv List.not_mem_nil
  | cons step steps ih =>
    cases step with
    | serve request fresh seconds =>
      rw [visits, Visit.served_bound, Assoc.erase_eq_self unbound]
      exact List.forall_mem_cons.mpr ⟨rfl, ih⟩
    | change change => exact ih

theorem apart_visits (app : Application) (bound : Log.Fields) (state : State Data)
    (steps : List Step) : (app.visits bound state steps).Pairwise (Visit.Apart app) := by
  induction steps generalizing bound state with
  | nil => exact .nil
  | cons step steps ih =>
    cases step with
    | serve request fresh seconds =>
      rw [visits]
      -- Whatever was bound for the first request, it lets go of its id, and no later one finds any.
      refine .cons (fun later hlater => Visit.apart_of_unbound ?_) (ih _ _)
      have hreleased := ((Visit.mk ⟨state, request, fresh, seconds⟩ bound).correlated app).released
      rw [app.bound_of_mem_visits hreleased later hlater]
      exact hreleased
    | change change => exact ih _ _

theorem visits_eq_servings (app : Application) (state : State Data) (steps : List Step) :
    app.visits [] state steps =
      (app.servings state steps).map fun s => { s with bound := [] } := by
  induction steps generalizing state with
  | nil => rfl
  | cons step steps ih =>
    cases step with
    | serve request fresh seconds =>
      rw [visits, servings, List.map_cons, Visit.served_bound]
      exact congrArg _ (ih _)
    | change change => exact ih _

end Application

/-- In every run each request is known by one correlation id: the one in its header if that will do,
or else a fresh one. All that is logged of it tells this id and no other one, a response that
carries an id carries this one, and when the request is through the id is bound no longer, so that
no later request takes it over. -/
theorem correlation_follows_request (app : Application) (bound : Log.Fields) (state : State Data)
    (steps : List Step) :
    (∀ v ∈ app.visits bound state steps, v.Correlated app) ∧
      (app.visits bound state steps).Pairwise (Visit.Apart app) ∧
      app.visits [] state steps =
        (app.servings state steps).map fun s => { s with bound := [] } :=
  ⟨fun v _ => v.correlated app, app.apart_visits bound state steps,
    app.visits_eq_servings state steps⟩

/-- The id a request brings along is in all that is logged of it. -/
theorem correlation_follows_request_demo :
    ∃ v ∈ Application.standard.visits [] ⟨.empty, .empty⟩
        [.serve Demo.tracedRequest Demo.fresh (.signedZero false)],
      v.correlationId = "trace-1" ∧ (v.served .standard).logs ≠ [] ∧
        ∀ entry ∈ (v.served .standard).logs, TracedBy "trace-1" entry := by
  let v : Visit := ⟨⟨⟨.empty, .empty⟩, Demo.tracedRequest, Demo.fresh, .signedZero false⟩, []⟩
  have hbrought : Demo.tracedRequest.correlationId? = some "trace-1" := by rfl
  have hid : v.correlationId = "trace-1" := by
    have hrequest : v.frame.request = Demo.tracedRequest := rfl
    unfold Visit.correlationId Layer.correlationIdOf
    rw [hrequest, hbrought, Option.getD_some]
  have hmem : v ∈ Application.standard.visits [] ⟨.empty, .empty⟩
      [.serve Demo.tracedRequest Demo.fresh (.signedZero false)] := List.mem_cons_self
  have hcorrelated := (correlation_follows_request .standard [] ⟨.empty, .empty⟩ _).1 v hmem
  have hreadable : v.frame.request.addressFault? = none := rfl
  refine ⟨v, hmem, hid, ?_, hid ▸ hcorrelated.logged⟩
  have hserved : v.served .standard = Application.standard.service.serve v.frame v.state := rfl
  rw [hserved, serve_eq_of_readable .standard v.frame v.state hreadable]
  simp [Log.within]

end TokenIssuer.Service
