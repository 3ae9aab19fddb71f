import TokenIssuer.Assoc
import TokenIssuer.Json.Basic

/-!
Log entries. A call names an event and its fields; what is bound around the call when it is made is
added as the context of the entry.
-/

namespace TokenIssuer.Log

inductive Method where
  | debug
  | info
  | msg
  | warning
  | warn
  | error
  /-- Something failed and left an exception behind. -/
  | exception
  | critical
  /-- The service itself failed, under its old name. -/
  | fatal
  deriving DecidableEq, Repr

namespace Method

def names : List (String × Method) :=
  [("debug", .debug), ("info", .info), ("msg", .msg), ("warning", .warning), ("warn", .warn),
   ("error", .error), ("exception", .exception), ("critical", .critical), ("fatal", .fatal)]

def of? (name : String) : Option Method := names.lookup name

def name (m : Method) : String := ((names.find? (·.2 = m)).map (·.1)).getD ""

/-- The level a call made by the method is shown with. -/
def level : Method → String
  | .debug => "debug"
  | .info | .msg => "info"
  | .warning | .warn => "warning"
  | .error | .exception => "error"
  | .critical | .fatal => "critical"

def severity : Method → Nat
  | .debug => 10
  | .info | .msg => 20
  | .warning | .warn => 30
  | .error | .exception => 40
  | .critical | .fatal => 50

end Method

abbrev Fields := List (String × Json)

structure Call where
  method : Method
  event : String
  fields : Fields

/-- A call together with what was bound around it. -/
structure Entry where
  call : Call
  context : Fields

def within (context : Fields) (calls : List Call) : List Entry := calls.map (⟨·, context⟩)

end TokenIssuer.Log
