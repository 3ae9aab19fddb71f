import TokenIssuer.Log.Entry
import TokenIssuer.Text.Case
import TokenIssuer.Text.Cut

/-!
Hiding of credentials by the names they are logged under.
-/

namespace TokenIssuer.Log

def redacted : String := "***REDACTED***"

def underscored (s : List Char) : List Char := s.map fun c => if c = '-' then '_' else c

def containsAny (words : List String) (s : List Char) : Bool :=
  words.any fun w => Text.contains w.toList s

/-- The names that are sensitive as a whole, compared in lower case and with underscores. -/
def sensitiveNames : List String :=
  ["access_token", "authorization", "client_secret", "code", "cookie", "password",
   "refresh_token", "set-cookie", "token"]

/-- A parameter of this name likely carries a credential. -/
def isSensitive (name : String) : Bool :=
  let normal := underscored (Text.lower name.toList)
  sensitiveNames.contains (String.ofList normal) ||
    containsAny ["token", "password", "secret"] normal

def redact (fields : Fields) : Fields :=
  fields.map fun f => (f.1, if isSensitive f.1 then .str redacted else f.2)

end TokenIssuer.Log
