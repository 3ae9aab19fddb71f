import TokenIssuer.Proofs.Http.Answers
import TokenIssuer.Proofs.Http.Headers
import TokenIssuer.Proofs.Service.Pipeline

/-!
What a caller and an auditor see of a served request. It is told by the reply of the endpoint: where
two replies have the same result and the same audit events, the same is seen.
-/

namespace TokenIssuer.Service

open Http Store

variable {app : Application} {frame other : Frame} {one another : Request}
  {state later : State Data} {fresh next : Grant.Fresh} {seconds duration : Double}

/-- What is seen of a served request, apart from its correlation id. -/
structure View where
  response : Option Response
  events : List Log.Entry

def viewOf (served : Served Data) : View :=
  { response := served.response.map Response.untraced, events := Audit.trail served.logs }

/-! ## Responses -/

theorem untraced_dressed (frame other : Frame) (response : Response) :
    (dressed frame response).untraced = (dressed other response).untraced := by
  unfold Response.untraced dressed
  simp only [Headers.erase_set]

theorem answered_congr (readable : frame.request.addressFault? = none)
    (alsoReadable : other.request.addressFault? = none) (result : Except Fault Response) :
    answered app frame result = answered app other result := by
  cases result with
  | ok response => rfl
  | error fault => exact Failure.answer_congr readable alsoReadable fault

theorem untraced_sent (app : Application) (frame other : Frame)
    (answer : Except Unexpected Response) :
    (sent app frame answer).untraced = (sent app other answer).untraced := by
  cases answer with
  | ok response => exact untraced_dressed frame other response
  | error fault => rfl

theorem response_congr (readable : one.addressFault? = none)
    (alsoReadable : another.addressFault? = none)
    (result : (replied app (.enter one fresh seconds) state).result =
      (replied app (.enter another next duration) later).result) :
    (app.serve one fresh seconds state).response.map Response.untraced =
      (app.serve another next duration later).response.map Response.untraced := by
  have hone : (inside (.enter one fresh seconds)).request.addressFault? = none := readable
  have hanother : (inside (.enter another next duration)).request.addressFault? = none :=
    alsoReadable
  rw [(serve_of_readable app readable fresh seconds state).1,
    (serve_of_readable app alsoReadable next duration later).1, routed_answer, routed_answer,
    result, answered_congr hone hanother, Option.map_some, Option.map_some,
    untraced_sent app (.enter one fresh seconds) (.enter another next duration)]

/-! ## Audit events -/

theorem trail_nil_of_event {call : Log.Call} (h : call.event ∉ Audit.types)
    (context : Log.Fields) : Audit.trail (Log.within context [call]) = [] := by
  rw [Audit.trail_within, Audit.events_eq_nil fun c hc => by rwa [List.mem_singleton.mp hc]]
  rfl

theorem trail_routed (app : Application) (frame : Frame) (state : State Data) :
    Audit.trail (routed app frame state).logs =
      Log.within (Assoc.erase "correlation_id" (inside frame).bound)
        (Audit.events (replied app frame state).calls) := by
  unfold routed router replied
  generalize dispatch app.service.routes (inside frame) state = dispatched
  obtain ⟨⟨result, _, calls⟩, _⟩ := dispatched
  cases result with
  | ok response => simp only [Audit.trail_within, List.append_nil]
  | error fault =>
    simp only [Audit.trail_within, Audit.events_append, Failure.events_handle, List.append_nil]

/-- The audit events of a served request are those of the endpoint. -/
theorem trail_serve (readable : one.addressFault? = none) (fresh : Grant.Fresh)
    (seconds : Double) (state : State Data) :
    Audit.trail (app.serve one fresh seconds state).logs =
      Log.within [] (Audit.events (replied app (.enter one fresh seconds) state).calls) := by
  have hbound : Assoc.erase "correlation_id" (inside (.enter one fresh seconds)).bound = [] := by
    unfold inside Frame.enter Assoc.erase
    simp [Assoc.put]
  have hrouted := trail_routed app (.enter one fresh seconds) state
  have hcompleted (answer : Except Unexpected Response) :
      (Layer.completedCall (inside (.enter one fresh seconds)) answer).event ∉ Audit.types := by
    show "request_completed" ∉ Audit.types
    decide
  rw [hbound] at hrouted
  rw [← hrouted]
  cases ha : (routed app (.enter one fresh seconds) state).answer with
  | ok response =>
    obtain ⟨-, -, -, hlogs⟩ := serve_of_answer app readable ha
    rw [hlogs, Audit.trail_append, trail_nil_of_event (hcompleted _), List.append_nil]
  | error fault =>
    have hhandler := handler_of_readable app (.enter one fresh seconds) state readable
    have hr : (Frame.enter one fresh seconds).request.addressFault? = none := readable
    have hraised (context fields : Log.Fields) :
        Audit.trail (Log.within context [⟨.error, "unhandled_exception", fields⟩]) = [] := by
      apply trail_nil_of_event
      show "unhandled_exception" ∉ Audit.types
      decide
    -- A fault that reaches the outside adds the note of its being raised.
    unfold Application.serve Http.Service.serve
    rw [hhandler]
    simp only [ha, Except.map, Failure.unexpectedCall, Failure.report, hr, Audit.trail_append,
      trail_nil_of_event (hcompleted _), hraised, List.append_nil]

/-! ## Views -/

/-- The replies have the same result and the same audit events. -/
structure RepliesAlike (reply other : Reply Data) : Prop where
  result : reply.result = other.result
  events : Audit.events reply.calls = Audit.events other.calls

theorem repliesAlike_keep {result : Except Fault Response} {calls more : List Log.Call}
    (events : Audit.events calls = Audit.events more) :
    RepliesAlike (keep state result calls) (keep later result more) := ⟨rfl, events⟩

theorem view_of_address {fault : Utf8.Fault} (h : one.addressFault? = some fault)
    (fresh : Grant.Fresh) (seconds : Double) (state : State Data) :
    viewOf (app.serve one fresh seconds state) = ⟨none, []⟩ := by
  have hhandler := handler_of_address app (.enter one fresh seconds) state h
  have hr : (Frame.enter one fresh seconds).request.addressFault? = some fault := h
  unfold viewOf Application.serve Http.Service.serve
  rw [hhandler]
  simp only [Layer.broken, Failure.unexpectedCall, Failure.report, hr]
  rfl

/-- Requests with one query are seen alike where they are replied to alike. -/
theorem view_congr (query : one.query = another.query)
    (alike : RepliesAlike (replied app (.enter one fresh seconds) state)
      (replied app (.enter another next duration) later)) :
    viewOf (app.serve one fresh seconds state) =
      viewOf (app.serve another next duration later) := by
  have haddress : one.addressFault? = another.addressFault? := by
    unfold Request.addressFault?
    rw [query]
  cases hreadable : one.addressFault? with
  | some fault =>
    rw [view_of_address hreadable, view_of_address (haddress.symm.trans hreadable)]
  | none =>
    have halso := haddress.symm.trans hreadable
    unfold viewOf
    rw [response_congr hreadable halso alike.result, trail_serve hreadable, trail_serve halso,
      alike.events]

end TokenIssuer.Service
