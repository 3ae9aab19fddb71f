import TokenIssuer.Encoding.Base64
import TokenIssuer.Encoding.Percent
import TokenIssuer.Text.Case

/-!
Client credentials in an Authorization header: after the word Basic, the identifier and the secret,
both form-encoded, with a colon between them and the whole in Base64.
-/

namespace TokenIssuer.Http.Basic

structure Credentials where
  clientId : String
  secret : String
  deriving DecidableEq, Repr

/-- Why a header with the word Basic holds no credentials. -/
inductive Fault where
  /-- The credentials cannot be decoded, or have no identifier. -/
  | malformed
  /-- The credentials have a character outside ASCII. -/
  | notAscii
  deriving DecidableEq, Repr

def decode? (encoded : List Char) : Option (List Char) :=
  (Base64.decodeStrict? encoded).bind Utf8.decode?

/-- The credentials in a decoded text. Without a colon, or with nothing before it, there are none.
-/
def split? (decoded : List Char) : Option Credentials :=
  match Text.cut ':' decoded with
  | (_, none) => none
  | ([], _) => none
  | (id, some secret) =>
    some ⟨String.ofList (Percent.decodeForm id), String.ofList (Percent.decodeForm secret)⟩

/-- Reads the credentials of a header value. An empty value, and any other scheme, have none. -/
def read (authorization : Option String) : Except Fault (Option Credentials) :=
  let value := Text.trim (authorization.getD "").toList
  let (scheme, rest) := Text.cut ' ' value
  if String.ofList (Text.lower scheme) ≠ "basic" then .ok none
  else
    let encoded := Text.trim (rest.getD [])
    -- A character outside ASCII is not even given to the decoder.
    if encoded.any fun c => 0x80 ≤ c.toNat then .error .notAscii
    else
      match (decode? encoded).bind split? with
      | some credentials => .ok (some credentials)
      | none => .error .malformed

end TokenIssuer.Http.Basic
