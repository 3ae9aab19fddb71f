import Mathlib.Data.List.Forall2
import TokenIssuer.Audit

/-! The audit events in a log, apart from the correlation ids in them. -/

namespace TokenIssuer.Audit

open Http

/-- The types of audit events. -/
def types : List String := ["client.authentication", "token.exchange", "token.introspection"]

/-- A log call without a correlation id. -/
def untraced (call : Log.Call) : Log.Call :=
  { call with fields := Assoc.erase "correlation_id" call.fields }

/-- The audit events among log calls. -/
def events (calls : List Log.Call) : List Log.Call :=
  (calls.filter fun call => call.event ∈ types).map untraced

/-- The audit events in a log, with what was bound around them. -/
def trail (logs : List Log.Entry) : List Log.Entry :=
  (logs.filter fun entry => entry.call.event ∈ types).map fun entry =>
    ⟨untraced entry.call, Assoc.erase "correlation_id" entry.context⟩

@[simp] theorem events_append (calls more : List Log.Call) :
    events (calls ++ more) = events calls ++ events more := by
  simp only [events, List.filter_append, List.map_append]

@[simp] theorem trail_append (logs more : List Log.Entry) :
    trail (logs ++ more) = trail logs ++ trail more := by
  simp only [trail, List.filter_append, List.map_append]

theorem trail_within (context : Log.Fields) (calls : List Log.Call) :
    trail (Log.within context calls) =
      Log.within (Assoc.erase "correlation_id" context) (events calls) := by
  simp only [trail, events, Log.within, List.filter_map, List.map_map]
  rfl

theorem events_eq_nil {calls : List Log.Call} (h : ∀ call ∈ calls, call.event ∉ types) :
    events calls = [] := by
  unfold events
  rw [List.map_eq_nil_iff, List.filter_eq_nil_iff]
  intro call hc
  rw [decide_eq_true_eq]
  exact h call hc

theorem events_singleton {call : Log.Call} (h : call.event ∈ types) :
    events [call] = [untraced call] := by
  have hkept : [call].filter (fun c => c.event ∈ types) = [call] :=
    List.filter_cons_of_pos (by simpa using h)
  unfold events
  rw [hkept]
  rfl

/-- The audit events among log calls, as they were logged. -/
def among (calls : List Log.Call) : List Log.Call := calls.filter fun call => call.event ∈ types

/-- The audit events in a log, as they were logged. -/
def recorded (logs : List Log.Entry) : List Log.Call := among (logs.map (·.call))

@[simp] theorem among_append (calls more : List Log.Call) :
    among (calls ++ more) = among calls ++ among more := List.filter_append _ _

theorem among_eq_nil {calls : List Log.Call} (h : ∀ call ∈ calls, call.event ∉ types) :
    among calls = [] := by
  unfold among
  rw [List.filter_eq_nil_iff]
  intro call hc
  rw [decide_eq_true_eq]
  exact h call hc

theorem among_singleton {call : Log.Call} (h : call.event ∈ types) : among [call] = [call] :=
  List.filter_cons_of_pos (by simpa using h)

@[simp] theorem recorded_append (logs more : List Log.Entry) :
    recorded (logs ++ more) = recorded logs ++ recorded more := by
  simp only [recorded, List.map_append, among_append]

@[simp] theorem recorded_within (context : Log.Fields) (calls : List Log.Call) :
    recorded (Log.within context calls) = among calls := by
  unfold recorded Log.within
  rw [List.map_map]
  exact congrArg among (List.map_id _)

/-- The log calls for one type of event. -/
def ofType (type : String) (calls : List Log.Call) : List Log.Call :=
  calls.filter fun call => call.event = type

@[simp] theorem ofType_append (type : String) (calls more : List Log.Call) :
    ofType type (calls ++ more) = ofType type calls ++ ofType type more :=
  List.filter_append _ _

theorem ofType_call {type : String} {event : Event} (h : event.type = type) (request : Request)
    (noted : Option Json) : ofType type [event.call request noted] = [event.call request noted] :=
  List.filter_cons_of_pos (decide_eq_true h)

theorem ofType_call_of_ne {type : String} {event : Event} (h : event.type ≠ type)
    (request : Request) (noted : Option Json) : ofType type [event.call request noted] = [] :=
  List.filter_cons_of_neg fun same => h (of_decide_eq_true same)

/-- An event is logged as information when it worked, and as a warning when it did not. -/
theorem method_call {event : Event} {success : Bool} (h : event.success = .bool success)
    (request : Request) (noted : Option Json) :
    (event.call request noted).method = (if success then .info else .warning) ∧
      (event.call request noted).fields.lookup "success" = some (.bool success) := by
  unfold Event.call
  rw [h]
  exact ⟨rfl, rfl⟩

/-- The call shows of the event whether it worked, for whom, and why not. -/
structure Shows (event : Event) (call : Log.Call) : Prop where
  type : call.fields.lookup "event_type" = some (.str event.type)
  success : call.fields.lookup "success" = some event.success
  client : call.fields.lookup "client_id" = some event.client
  reason : call.fields.lookup "failure_reason" = some event.reason

theorem shows_call (event : Event) (request : Request) (noted : Option Json) :
    Shows event (event.call request noted) :=
  ⟨rfl, rfl, rfl, rfl⟩

/-- The calls are those for the events, in their order, and each shows its own. -/
structure Entered (request : Request) (noted : Option Json) (events : List Event)
    (calls : List Log.Call) : Prop where
  same : calls = events.map (Event.call request noted)
  shown : List.Forall₂ Shows events calls

theorem entered_of_eq {request : Request} {noted : Option Json} {events : List Event}
    {calls : List Log.Call} (h : calls = events.map (Event.call request noted)) :
    Entered request noted events calls where
  same := h
  shown := by
    rw [h, List.forall₂_map_right_iff, List.forall₂_same]
    exact fun event _ => shows_call event request noted

/-- Whether a token is active is no credential. -/
theorem sanitize_active (active : Bool) :
    sanitize [("active", .bool active)] = [("active", .bool active)] := by
  have hopen : isSensitive "active" = false := by decide
  unfold sanitize sanitizeField
  simp only [List.filterMap_cons, List.filterMap_nil, hopen, Bool.false_eq_true, if_false, plain]

/-- Of the request an event tells the sender only, its correlation id aside. -/
theorem untraced_call {one other : Request} (address : one.auditedAddress = other.auditedAddress)
    (agent : one.header? "user-agent" = other.header? "user-agent") (noted also : Option Json)
    (event : Event) : untraced (event.call one noted) = untraced (event.call other also) := by
  unfold Event.call untraced
  rw [address, agent]
  rfl

end TokenIssuer.Audit
