import TokenIssuer.Service.Application
import TokenIssuer.Proofs.Authentication
import TokenIssuer.Proofs.Grant
import TokenIssuer.Proofs.Http.Credentials
import TokenIssuer.Proofs.Secret

/-! The service as it comes: its settings, and the demo clients it starts with. -/

namespace TokenIssuer

/-- The settings when nothing is set. -/
def Settings.standard : Settings :=
  { environment := .development, service := .plain "oauth-token-service", logLevel := .info
    lifetime := 7200, scopes := Settings.defaultScopes, passes := 3, memory := 65536, lanes := 4
    seedDemo := true, realm := .plain "oauth" }

/-- The application of these settings. -/
def Service.Application.standard : Service.Application :=
  { settings := Settings.standard
    documentation := .bare
    rules := { registry := Settings.standard.registry, lifetime := 7200 }
    hasher := ⟨3, 65536, 4, by decide⟩ }

theorem Service.Application.ofSettings_standard :
    Service.Application.ofSettings .bare Settings.standard = .ok Service.Application.standard := by
  rfl

namespace Demo

open Client Http Store Service

/-- The configuration of the confidential demo client. -/
def confidential : Configuration :=
  { id := confidentialId, kind := .confidentialClient, redirectUris := [], scopes := [scopeName]
    actions := [.introspect], grants := [.password] }

/-- The configuration of the public demo client. -/
def identified : Configuration :=
  { id := publicId, kind := .publicClient, redirectUris := [], scopes := [scopeName], actions := []
    grants := [] }

/-- The stores with the demo clients, the secret being on file under an identifier. -/
def stores (id : Uuid) (hash : String) : Stores :=
  { clients := .ofRows [confidential, identified], secrets := .ofRows [⟨id, confidentialId, hash⟩]
    tokens := .empty, down := [] }

/-- A service that is to have the demo clients starts with them, and the secret matches its hash. -/
theorem startStores_of_seeded (app : Application) (seeded : app.settings.seedDemo)
    (known : app.rules.registry.knows scopeName) {salt : List UInt8}
    (salted : Crypto.Argon2.minSalt ≤ salt.length) (id : Uuid) :
    ∃ hash, app.startStores salt id = .ok (stores id hash) ∧
      Secret.verify (.bytes (Utf8.encode confidentialSecret.toList)) hash = .ok true := by
  have hget : app.rules.registry.get scopeName = .ok scopeName := if_pos known
  have hfits : (Secret.Presented.text confidentialSecret).fits = true := by decide
  obtain ⟨hash, hmade⟩ := app.hasher.exists_hash salted hfits
  refine ⟨hash, ?_, Secret.verify_of_hash hmade rfl⟩
  unfold Application.startStores configurations secrets
  rw [if_pos seeded, hget, hmade]
  rfl

theorem startStores_standard :
    ∃ hash, Application.standard.startStores (List.replicate 8 1) ⟨4⟩ = .ok (stores ⟨4⟩ hash) ∧
      Secret.verify (.bytes (Utf8.encode confidentialSecret.toList)) hash = .ok true :=
  startStores_of_seeded .standard rfl rfl (by decide) ⟨4⟩

theorem up_stores (id : Uuid) (hash : String) : (stores id hash).Up :=
  ⟨List.not_mem_nil, List.not_mem_nil, List.not_mem_nil⟩

/-- The demo secret proves the confidential demo client. -/
theorem proves_confidential {id : Uuid} {hash : String}
    (verified :
      Secret.verify (.bytes (Utf8.encode confidentialSecret.toList)) hash = .ok true) :
    Authentication.Proves (stores id hash) confidentialId.text
      (Utf8.encode confidentialSecret.toList) confidential where
  matched := ⟨⟨id, confidentialId, hash⟩, List.mem_singleton_self _, verified⟩
  registered := rfl
  kind := rfl

/-- Nothing else is on file for it, so that its secret can be checked. -/
theorem checkable_confidential {id : Uuid} {hash : String}
    (verified :
      Secret.verify (.bytes (Utf8.encode confidentialSecret.toList)) hash = .ok true) :
    Authentication.Checkable (stores id hash) confidentialId.text
      (Utf8.encode confidentialSecret.toList) := by
  intro secret hs
  have he : secret = ⟨id, confidentialId, hash⟩ := List.mem_singleton.mp hs
  rw [he]
  exact ⟨true, verified⟩

/-- A text that is no hash is on file for it, so that nothing matches. -/
theorem checks_unset {id : Uuid} {presented : List UInt8} {secret : Store.Secret}
    (h : secret ∈ (stores id "unset").secrets.ownedBy confidentialId.text) :
    Secret.verify (.bytes presented) secret.hash = .ok false := by
  have he : secret = ⟨id, confidentialId, "unset"⟩ := List.mem_singleton.mp h
  have hno : Secret.looksLikeHash "unset".toList = false := by decide
  rw [he]
  exact Secret.verify_of_no_hash hno _

theorem not_proves_unset {id : Uuid} {presented : List UInt8} {client : Configuration} :
    ¬ Authentication.Proves (stores id "unset") confidentialId.text presented client := by
  intro h
  obtain ⟨secret, hs, hv⟩ := h.matched
  rw [checks_unset hs] at hv
  cases hv

/-- Its identifier and secret as they stand in a header. -/
def authorization : String := "Basic YWFyZHZhcms6YmFkZ2Vy"

theorem holds_authorization :
    Basic.Holds (some authorization) ⟨confidentialId.text, confidentialSecret⟩ :=
  Basic.read_eq_some_iff.mp rfl

/-- Its identifier with a secret that is not its own. -/
def mistaken : String := "Basic YWFyZHZhcms6d2Vhc2Vs"

theorem holds_mistaken : Basic.Holds (some mistaken) ⟨confidentialId.text, "weasel"⟩ :=
  Basic.read_eq_some_iff.mp rfl

theorem ascii_mistaken : Basic.EncodedInAscii (some mistaken) := holds_mistaken.encodedInAscii

/-- A form sent with an Authorization header. -/
def request (authorization path body : String) : Request :=
  { method := "POST", path, query := ""
    headers :=
      [("authorization", authorization), ("content-type", Form.expectedType)]
    body := Utf8.encode body.toList, peer := none }

/-- Identifiers for a request. -/
def fresh : Grant.Fresh := ⟨⟨1⟩, ⟨2⟩, ⟨3⟩⟩

theorem header_request (authorization path body : String) :
    (request authorization path body).header? "authorization" = some authorization := by
  have hname : Text.lowered "authorization" = "authorization" := by decide
  unfold Request.header? Headers.first? request
  rw [List.find?_cons_of_pos (by rw [hname]; decide)]
  rfl

theorem requestType_request (authorization path body : String) :
    Form.requestType (request authorization path body) = Form.expectedType.toList := by
  have hauthorization : Text.lowered "authorization" ≠ "content-type" := by decide
  have hname : Text.lowered "content-type" = "content-type" := by decide
  have hheader : (request authorization path body).header? "content-type" =
      some Form.expectedType := by
    unfold Request.header? Headers.first? request
    rw [List.find?_cons_of_neg (by simpa using hauthorization),
      List.find?_cons_of_pos (by rw [hname]; decide)]
    rfl
  unfold Form.requestType
  rw [hheader]
  decide

theorem read_request (authorization path body : String) :
    Form.read (request authorization path body) = Form.decode (Utf8.encode body.toList) :=
  if_pos (requestType_request authorization path body)

/-! ## Requests that need no client -/

/-- A request that asks whether the service is alive. -/
def liveRequest (query : String) : Request :=
  { method := "GET", path := "/health/live", query, headers := [], body := [], peer := none }

/-- A request for the counts. -/
def countsRequest : Request :=
  { method := "GET", path := "/metrics", query := "", headers := [], body := [], peer := none }

/-- A request that brings a correlation id along, with blanks around it. -/
def tracedRequest : Request :=
  { countsRequest with headers := [("X-Correlation-ID", " trace-1\t")] }

/-- A request for tokens without credentials, which a proxy forwarded. -/
def forwardedRequest : Request :=
  { method := "POST", path := "/token", query := ""
    headers :=
      [("content-type", Form.expectedType), ("X-Forwarded-For", "::FFFF:1.2.3.4, 10.0.0.1")]
    body := [], peer := some "10.0.0.1" }

/-! ## A request for tokens -/

/-- The form of a request for tokens. -/
def tokenForm : Form :=
  [("grant_type", "password"), ("username", "alice"), ("password", "wonderland"),
   ("scope", scopeName)]

def tokenRequest : Request :=
  request authorization "/token"
    "grant_type=password&username=alice&password=wonderland&scope=basic"

/-- The frame in which it is served. -/
def tokenFrame : Frame := .enter tokenRequest fresh (.signedZero false)

theorem read_tokenRequest : Form.read tokenRequest = .ok tokenForm := by
  unfold tokenRequest
  rw [read_request]
  rfl

/-- What that form asks for. -/
def accepted : Grant.Password.Accepted :=
  { client := confidential, username := "alice", password := "wonderland"
    scopes := some [scopeName] }

theorem asks_accepted : Grant.Asks Application.standard.rules.registry tokenForm accepted where
  allowed := List.mem_singleton_self _
  username := rfl
  named := ⟨'a', by decide, rfl⟩
  password := rfl
  scopes := .given rfl rfl fun _ h => h

end Demo

end TokenIssuer
