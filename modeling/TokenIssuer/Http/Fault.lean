import TokenIssuer.Authentication
import TokenIssuer.Grant.Refusal
import TokenIssuer.Http.Basic
import TokenIssuer.Http.Form
import TokenIssuer.Http.Response

/-!
How the handling of a request ends when it does not end with a response. Some faults have a response
of their own; the unexpected ones have not.
-/

namespace TokenIssuer.Http

/-- A fault that nothing was prepared for. -/
inductive Unexpected where
  /-- A refused grant that nobody turned into an answer. -/
  | grant (description : String)
  | internal (text : String)
  /-- A hash on file that cannot be checked against. -/
  | check (fault : Secret.Fault)
  | credentials
  | unsendable (fault : Unsendable)
  | address (fault : Utf8.Fault)
  | pathNumber (digits : Nat)
  /-- A refused grant with a code that there is not. -/
  | code (text : String)
  | noPart (kind part : String)
  deriving DecidableEq, Repr

def Unexpected.message : Unexpected → String
  | .grant text => text
  | .internal text => text
  | .check fault => fault.message
  | .credentials => "string argument should contain only ASCII characters"
  | .unsendable fault => fault.message
  | .address fault => fault.message
  | .pathNumber digits => Number.tooLongMessage digits
  | .code text => String.ofList (Text.quote text.toList) ++ " is not a valid OAuthErrorKind"
  | .noPart kind part => "'" ++ kind ++ "' object has no attribute '" ++ part ++ "'"

/-- How handling ends without a response. -/
inductive Fault where
  | oauth (detail code : String) (status : Int)
  | storage (text : String)
  | http (status : Int) (detail : Json) (headers : Headers)
  | validation (errors : List Json)
  | unexpected (fault : Unexpected)

namespace Fault

/-- No client was recognised. -/
def authentication (detail : String) : Fault := .oauth detail Grant.Code.invalidClient.text 401

def unauthenticated : Fault := .authentication "Client authentication failed."

def invalidRequest (detail : String) : Fault := .oauth detail Grant.Code.invalidRequest.text 400

def forbidden (action : Client.Action) : Fault :=
  .oauth ("client is not authorized to perform action: " ++ action.name)
    Grant.Code.unauthorizedClient.text 403

def ofForm : Form.Fault → Fault
  | .mediaType => .http 415 (.str Form.Fault.mediaType.message) []
  | fault => .invalidRequest fault.message

def ofUnreachable (u : Store.Unreachable) : Fault := .storage u.message

def ofAuthentication : Authentication.Fault → Fault
  | .unreachable store => .ofUnreachable store
  | .check fault => .unexpected (.check fault)

end Fault

def statusNames : List (Int × String) :=
  [(100, "Continue"), (101, "Switching Protocols"), (102, "Processing"), (103, "Early Hints"),
   (200, "OK"), (201, "Created"), (202, "Accepted"), (203, "Non-Authoritative Information"),
   (204, "No Content"), (205, "Reset Content"), (206, "Partial Content"), (207, "Multi-Status"),
   (208, "Already Reported"), (226, "IM Used"), (300, "Multiple Choices"),
   (301, "Moved Permanently"), (302, "Found"), (303, "See Other"), (304, "Not Modified"),
   (305, "Use Proxy"), (307, "Temporary Redirect"), (308, "Permanent Redirect"),
   (400, "Bad Request"), (401, "Unauthorized"), (402, "Payment Required"), (403, "Forbidden"),
   (404, "Not Found"), (405, "Method Not Allowed"), (406, "Not Acceptable"),
   (407, "Proxy Authentication Required"), (408, "Request Timeout"), (409, "Conflict"),
   (410, "Gone"), (411, "Length Required"), (412, "Precondition Failed"),
   (413, "Request Entity Too Large"), (414, "Request-URI Too Long"),
   (415, "Unsupported Media Type"), (416, "Requested Range Not Satisfiable"),
   (417, "Expectation Failed"), (418, "I'm a Teapot"), (421, "Misdirected Request"),
   (422, "Unprocessable Entity"), (423, "Locked"), (424, "Failed Dependency"),
   (425, "Too Early"), (426, "Upgrade Required"), (428, "Precondition Required"),
   (429, "Too Many Requests"), (431, "Request Header Fields Too Large"),
   (451, "Unavailable For Legal Reasons"), (500, "Internal Server Error"),
   (501, "Not Implemented"), (502, "Bad Gateway"), (503, "Service Unavailable"),
   (504, "Gateway Timeout"), (505, "HTTP Version Not Supported"),
   (506, "Variant Also Negotiates"), (507, "Insufficient Storage"), (508, "Loop Detected"),
   (510, "Not Extended"), (511, "Network Authentication Required")]

/-- A fault with a status and a detail; without a detail the name of the status is taken, and
nothing for a status without a name. -/
def Fault.ofStatus (status : Int) (detail : Json) (headers : Headers) : Fault :=
  match detail with
  | .null => .http status (.str ((statusNames.lookup status).getD "")) headers
  | detail => .http status detail headers

/-- A refused grant with a code of its own that nobody turned into an answer. -/
def Fault.ofGrant (code description : String) : Fault :=
  .unexpected (if (Grant.Code.of? code).isSome then .grant description else .code code)

end TokenIssuer.Http
