import TokenIssuer.Audit
import TokenIssuer.Http.Handler

/-!
Recognition of the client of a request. Its credentials come in exactly one of two ways: in an
Authorization header, or as an identifier in the form. Every attempt is audited.
-/

namespace TokenIssuer.Service

open Http Store

/-- What recognition leaves: a principal or a fault, and the log calls made on the way. -/
structure Recognition where
  result : Except Fault Client.Principal
  calls : List Log.Call

namespace Recognition

def audit (frame : Frame) (channel : String) (success : Bool) (client reason : Option String) :
    Log.Call :=
  (Audit.Event.clientAuthentication channel success client reason).call frame.request frame.noted

def reject (frame : Frame) (channel reason : String) : Recognition :=
  { result := .error .unauthenticated, calls := [audit frame channel false none (some reason)] }

/-- What becomes of an attempt whose credentials were looked up. -/
def conclude (frame : Frame) (channel : String) (outcome : Authentication.Outcome) : Recognition :=
  match outcome.result with
  | .error fault => { result := .error (.ofAuthentication fault), calls := outcome.calls }
  | .ok none =>
    { result := .error .unauthenticated
      calls := outcome.calls ++ [audit frame channel false none (some "invalid_credentials")] }
  | .ok (some principal) =>
    { result := .ok principal
      calls := outcome.calls ++ [audit frame channel true (some principal.id.text) none] }

def byHeader (frame : Frame) (directory : Authentication.Directory)
    (credentials : Basic.Credentials) : Recognition :=
  conclude frame "basic"
    (Authentication.authenticate directory credentials.clientId
      (Utf8.encode credentials.secret.toList))

/-- What becomes of a header whose credentials cannot be read. -/
def unreadable (frame : Frame) : Basic.Fault → Recognition
  | .malformed => reject frame "basic" "malformed_credentials"
  | .notAscii => { result := .error (.unexpected .credentials), calls := [] }

/-- Recognises the client of a request by whichever way its credentials came. -/
def ofRequest (frame : Frame) (directory : Authentication.Directory) (form : Form) : Recognition :=
  match Basic.read (frame.request.header? "authorization") with
  | .error fault => unreadable frame fault
  | .ok credentials =>
    match credentials, form.lookup "client_id" with
    | some _, some _ => reject frame "ambiguous" "multiple_credentials"
    | none, none => reject frame "none" "missing_credentials"
    | some credentials, none => byHeader frame directory credentials
    | none, some clientId =>
      conclude frame "client_id" (Authentication.identify directory clientId)

/-- Recognises the confidential client of a request by the credentials of its header. -/
def ofConfidential (frame : Frame) (directory : Authentication.Directory) : Recognition :=
  match Basic.read (frame.request.header? "authorization") with
  | .error fault => unreadable frame fault
  | .ok none => reject frame "basic" "missing_credentials"
  | .ok (some credentials) => byHeader frame directory credentials

end Recognition

end TokenIssuer.Service
