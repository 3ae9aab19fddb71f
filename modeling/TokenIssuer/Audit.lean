import TokenIssuer.Http.Request
import TokenIssuer.Log.Redaction
import TokenIssuer.Text.Order

/-!
Audit events: who tried what, from where, and whether it worked. What could be a credential is
hidden by its name, and everything else is reduced to plain values.
-/

namespace TokenIssuer.Audit

open Http Log

def sensitiveWords : List String := ["authorization", "cookie", "password", "secret", "token"]

/-- A value of this name likely is a credential. -/
def isSensitive (name : String) : Bool :=
  containsAny sensitiveWords (underscored (Text.lower (Text.trim name.toList)))

/-- A plain form of a value: lists become the ordered texts of their items, objects become texts. -/
def plain : Json → Json
  | .arr items => Json.ofTexts (Text.sortTexts (items.map Json.literal))
  | .obj fields => .str (Json.obj fields).literal
  | value => value

/-- One value of the metadata. A value that is not there is left out whatever its name. -/
def sanitizeField (field : String × Json) : Option (String × Json) :=
  match field.2 with
  | .null => none
  | value => some (field.1, if isSensitive field.1 then .str redacted else plain value)

/-- The metadata with credentials hidden and values in plain form. -/
def sanitize (metadata : Fields) : Fields := metadata.filterMap sanitizeField

structure Event where
  type : String
  /-- Whether it worked: any value, which may count as true. -/
  success : Json
  client : Json
  reason : Json
  metadata : Fields

namespace Event

/-- The outcome of the recognition of a client. -/
def clientAuthentication (channel : String) (success : Bool) (client reason : Option String) :
    Event :=
  { type := "client.authentication", success := .bool success, client := Json.ofText? client
    reason := Json.ofText? reason, metadata := [("channel", .str channel)] }

def tokenExchange (client : String) (grantType : Option String) (success : Bool)
    (reason : Option String) : Event :=
  { type := "token.exchange", success := .bool success, client := .str client
    reason := Json.ofText? reason, metadata := [("grant_type", Json.ofText? grantType)] }

def tokenIntrospection (client : String) (active : Bool) : Event :=
  { type := "token.introspection", success := .bool true, client := .str client, reason := .null
    metadata := [("active", .bool active)] }

/-- The log call for an event that happens in a request, for which a correlation id may be noted. -/
def call (request : Request) (noted : Option Json) (event : Event) : Call :=
  { method := if event.success.isTrue then .info else .warning
    event := event.type
    fields :=
      [("event_type", .str event.type), ("success", event.success), ("client_id", event.client),
       ("failure_reason", event.reason),
       ("correlation_id", .str (request.auditCorrelation noted)),
       ("ip_address", Json.ofText? request.auditedAddress),
       ("user_agent", Json.ofText? (request.header? "user-agent")),
       ("metadata", .obj (sanitize event.metadata))] }

end Event

end TokenIssuer.Audit
