import TokenIssuer.Http.Request
import TokenIssuer.Json.Printer

/-!
Responses. Header names are kept in lower case; names and values must be Latin-1, and the fault for
one that is not says where.
-/

namespace TokenIssuer.Http

inductive Body where
  | empty
  | json (value : Json)
  | text (s : String)

def Body.sent : Body → String
  | .empty => ""
  | .json value => value.print .compact
  | .text s => s

structure Response where
  status : Int
  headers : Headers
  body : Body

/-- Characters that cannot be sent in a header: those from `first` on, `count` of them. -/
structure Foreign where
  codePoint : Nat
  first : Nat
  count : Nat
  deriving DecidableEq, Repr

def Foreign.message (u : Foreign) : String :=
  let place :=
    if u.count = 1 then
      let n := u.codePoint
      let digits :=
        if n < 0x10000 then 'u' :: Text.hexDigits 4 n else 'U' :: Text.hexDigits 8 n
      "character '\\" ++ String.ofList digits ++ s!"' in position {u.first}"
    else s!"characters in position {u.first}-{u.first + u.count - 1}"
  s!"'latin-1' codec can't encode {place}: ordinal not in range(256)"

/-- The code points of a text that cannot be sent in a header, if there are some. -/
def foreignAmong? (codePoints : List Nat) : Option Foreign :=
  let (before, rest) := codePoints.span (· < 0x100)
  match rest with
  | [] => none
  | n :: _ => some ⟨n, before.length, (rest.takeWhile (0x100 ≤ ·)).length⟩

def foreign? (value : String) : Option Foreign := foreignAmong? (value.toList.map Char.toNat)

inductive Unsendable where
  | number
  /-- A header name or value holds characters that are not Latin-1. -/
  | characters (fault : Foreign)
  deriving DecidableEq, Repr

def Unsendable.message : Unsendable → String
  | .number => "Out of range float values are not JSON compliant"
  | .characters fault => fault.message

namespace Headers

/-- A header line as it is sent: its name in lower case. The name is looked at before the value. -/
def line (name value : String) : Except Unsendable (String × String) :=
  match foreign? (Text.lowered name), foreign? value with
  | some fault, _ => .error (.characters fault)
  | none, some fault => .error (.characters fault)
  | none, none => .ok (Text.lowered name, value)

/-- Sets a header whose name is given in lower case: in the place of the first one of its name,
while the others of that name go, or at the end. -/
def set (name value : String) : Headers → Headers
  | [] => [(name, value)]
  | h :: rest =>
    if h.1 = name then (name, value) :: Assoc.erase name rest else h :: set name value rest

/-- Sets a header unless there is one of its name. It must be fit to be sent even then. -/
def setDefault (headers : Headers) (name value : String) : Except Unsendable Headers := do
  let (name, value) ← line name value
  pure (Assoc.putNew name value headers)

end Headers

namespace Response

/-- A response with a JSON body; header lines given may name another media type. -/
def json (status : Int) (content : Json) (extra : Headers) : Except Unsendable Response :=
  if content.isFinite then do
    let headers ← extra.mapM fun h => Headers.line h.1 h.2
    pure
      { status, body := .json content
        headers := Assoc.putNew "content-type" "application/json" headers }
  else .error .number

def plain (content mediaType : String) : Response :=
  { status := 200, headers := [("content-type", mediaType)], body := .text content }

def redirect (location : String) : Response :=
  { status := 307, headers := [("location", location)], body := .empty }

end Response

end TokenIssuer.Http
