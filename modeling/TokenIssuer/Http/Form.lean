import TokenIssuer.Http.Request

/-!
The form in the body of a request. Every name may come once only.
-/

namespace TokenIssuer.Http

abbrev Form := List (String × String)

namespace Form

inductive Fault where
  | mediaType
  | notText
  | repeated (name : String)
  deriving DecidableEq, Repr

def expectedType : String := "application/x-www-form-urlencoded"

def Fault.message : Fault → String
  | .mediaType => "Unsupported media type; expected " ++ expectedType ++ "."
  | .notText => "request body is not valid UTF-8"
  | .repeated name => "repeated parameter: " ++ name

/-- The media type of a request, without parameters and in lower case. -/
def requestType (r : Request) : List Char :=
  Text.lower (Text.trim (Text.before ';' ((r.header? "content-type").getD "").toList))

/-- Collects fields until a name comes again. -/
def collect : Form → List (List Char × List Char) → Except Fault Form
  | form, [] => .ok form
  | form, (name, value) :: rest =>
    let name := String.ofList name
    if (form.lookup name).isSome then .error (.repeated name)
    else collect (form ++ [(name, String.ofList value)]) rest

def decode (body : List UInt8) : Except Fault Form :=
  match Utf8.decode? body with
  | none => .error .notText
  | some text => collect [] (Percent.pairs text)

def read (r : Request) : Except Fault Form :=
  if requestType r = expectedType.toList then decode r.body else .error .mediaType

end Form

end TokenIssuer.Http
