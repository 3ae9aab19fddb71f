import TokenIssuer.Log.Entry

/-!
The line that is printed for a log call: one object with the event, the fields of the call, what was
bound around it, and the fields every line has.
-/

namespace TokenIssuer.Log

/-- What every line of a service says, and which calls it prints. -/
structure Setup where
  environment : String
  service : Phrase
  threshold : Nat

def Setup.prints (setup : Setup) (method : Method) : Bool := setup.threshold ≤ method.severity

/-- A field that has the name of an argument of the call itself. -/
structure Clash where
  callee : String
  argument : String
  deriving DecidableEq, Repr

def Clash.message (c : Clash) : String :=
  s!"{c.callee}() got multiple values for argument '{c.argument}'"

/-- What is called first by a method. -/
def callee (setup : Setup) (method : Method) : String :=
  if method = .exception then "exception"
  else if setup.prints method then "_make_filtering_bound_logger.<locals>.make_method.<locals>.meth"
  else "_nop"

/-- The first clash of the fields of a call. The name of the method is an argument only of what a
printed call is handed on to. -/
def clash? (setup : Setup) (method : Method) (fields : Fields) : Option Clash :=
  match (fields.map (·.1)).find? fun name => name = "self" ∨ name = "event" with
  | some name => some ⟨callee setup method, name⟩
  | none =>
    if setup.prints method && (fields.lookup "method_name").isSome then
      some ⟨"BoundLoggerBase._proxy_to_logger", "method_name"⟩
    else none

/-- The object that is printed for a call at a time, if it is printed. A field of the call wins over
a bound value and over what every line says, and the event, unless there is none, over both; the
level is always the one of the call. -/
def render (setup : Setup) (time : String) (method : Method) (event : Json)
    (fields context : Fields) : Except Clash (Option Json) :=
  match clash? setup method fields with
  | some clash => .error clash
  | none =>
    if setup.prints method then
      -- Bound values first, so that a field of the call replaces one of the same name.
      let shown := Assoc.erase "exc_info" (Assoc.putAll fields context)
      let shown := if event == .null then shown else Assoc.put "event" event shown
      let shown := Assoc.put "level" (.str method.level) shown
      .ok (some (.obj
        (Assoc.putNew "timestamp" (.str time) (Assoc.putNew "service" (.ofPhrase setup.service)
          (Assoc.putNew "environment" (.str setup.environment)
            (Assoc.putNew "correlation_id" (.str "unknown") shown))))))
    else .ok none

end TokenIssuer.Log
