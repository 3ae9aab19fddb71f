import TokenIssuer.Text.Case
import TokenIssuer.Text.Cut
import TokenIssuer.Assoc
import TokenIssuer.Encoding.Percent
import TokenIssuer.Json.Literal
import TokenIssuer.Net.Authority

/-!
Requests, and what the rest of the service reads off them: header values, the query, who sent the
request, and the correlation id it is known by.
-/

namespace TokenIssuer.Http

/-- Header lines: names and values in Latin-1. -/
abbrev Headers := List (String × String)

/-- The value of the first header of a name, which is given in lower case. -/
def Headers.first? (headers : Headers) (name : String) : Option String :=
  (headers.find? fun h => Text.lowered h.1 = name).map (·.2)

structure Request where
  method : String
  path : String
  /-- The query in Latin-1, without its question mark. -/
  query : String
  headers : Headers
  body : List UInt8
  peer : Option String

namespace Request

def header? (r : Request) (name : String) : Option String := r.headers.first? name

/-- The characters of a header value without the blanks around it; none for an absent header. -/
def trimmedHeader (r : Request) (name : String) : List Char :=
  Text.trim ((r.header? name).getD "").toList

/-- The path as it stands in an address: with the marks that would end it, and backslashes, written
as bytes, and with a slash in front. The empty path stays empty. -/
def addressPath (path : String) : List Char :=
  let escaped := path.toList.flatMap fun c =>
    if c = '?' then "%3F".toList
    else if c = '#' then "%23".toList
    else if c = '\\' then "%5C".toList
    else [c]
  if escaped.isEmpty || escaped.head? = some '/' then escaped else '/' :: escaped

/-- The path as it is logged: as it stands in the address of the request, without line breaks and
tabs. -/
def shownPath (r : Request) : String :=
  String.ofList ((addressPath r.path).filter fun c => c ≠ '\t' ∧ c ≠ '\n' ∧ c ≠ '\r')

/-- The server the request was sent to, as the request names it, or else by its own name. -/
def server (r : Request) : String :=
  ((r.header? "host").filter fun host => Net.isAuthority host.toList).getD "testserver"

/-- Why the address of the request cannot be told: its query is not UTF-8. -/
def addressFault? (r : Request) : Option Utf8.Fault :=
  Utf8.fault? (r.query.toList.map fun c => UInt8.ofNat c.toNat)

/-- The parameters of the query. A name that comes again keeps its place and takes the last
value. -/
def queryFields (r : Request) : List (String × Json) :=
  ((Percent.pairs r.query.toList).map fun p =>
    (String.ofList p.1, Json.str (String.ofList p.2))).foldl (fun acc p => Assoc.put p.1 p.2 acc) []

/-- The scheme of the credentials, in lower case: what stands before the first space. -/
def authorizationScheme (r : Request) : Option String :=
  let value := r.trimmedHeader "authorization"
  if value.isEmpty then none else some (String.ofList (Text.lower (Text.before ' ' value)))

/-- The address a proxy in front forwarded the request for: the first of its list. -/
def forwardedFor? (r : Request) : Option String :=
  let value := r.trimmedHeader "x-forwarded-for"
  if value.isEmpty then none else some (String.ofList (Text.trim (Text.before ',' value)))

def loggedAddress (r : Request) : String :=
  match r.forwardedFor? with
  | some address => address
  | none => r.peer.getD "unknown"

def auditedAddress (r : Request) : Option String :=
  match r.forwardedFor?.bind Net.canonical? with
  | some address => some address
  | none => r.peer.bind Net.canonical?

def correlationHeader : String := "x-correlation-id"

def isCorrelationChar (c : Char) : Bool :=
  ('A' ≤ c && c ≤ 'Z') || ('a' ≤ c && c ≤ 'z') || ('0' ≤ c && c ≤ '9') || c == '.' || c == '_' ||
    c == '-'

/-- The correlation id the request brings along, if it is well formed: one to 128 characters, blanks
around them aside. -/
def correlationId? (r : Request) : Option String :=
  let value := r.trimmedHeader correlationHeader
  if 1 ≤ value.length ∧ value.length ≤ 128 ∧ value.all isCorrelationChar then
    some (String.ofList value)
  else none

/-- The correlation id of an audit event: the one noted for the request if it counts as true, or the
header. -/
def auditCorrelation (r : Request) (noted : Option Json) : String :=
  match noted.filter Json.isTrue with
  | some id => id.literal
  | none => (r.header? correlationHeader).getD "unknown"

/-- The correlation id of a failure: the one noted for the request, or the header. -/
def failureCorrelation (r : Request) (noted : Option Json) : String :=
  match noted with
  | some id => id.literal
  | none => (r.header? correlationHeader).getD "unknown"

end Request

end TokenIssuer.Http
