import TokenIssuer.Client.Principal
import TokenIssuer.Log.Entry
import TokenIssuer.Secret.Hasher
import TokenIssuer.Store.Outage

/-!
Recognition of clients. Credentials that do not fit, for whatever reason, give no principal; a store
that cannot be reached is a fault of its own, so that an outage is never taken for bad credentials.
-/

namespace TokenIssuer.Authentication

open Store

/-- What recognition looks up. -/
structure Directory where
  findClient : String → Except Unreachable (Option Client.Configuration)
  getClient : Client.Id → Except Unreachable (Option Client.Configuration)
  /-- The secrets on file for the client a text names. -/
  findSecrets : String → Except Unreachable (List Store.Secret)

def ofStores (stores : Stores) : Directory :=
  { findClient := stores.findClient, getClient := stores.getClient
    findSecrets := stores.findSecrets }

inductive Fault where
  | unreachable (store : Unreachable)
  | check (fault : Secret.Fault)
  deriving DecidableEq

/-- What recognition leaves: a principal, none, or a fault, and the log calls made on the way. -/
structure Outcome where
  result : Except Fault (Option Client.Principal)
  calls : List Log.Call

def Outcome.quiet (result : Except Fault (Option Client.Principal)) : Outcome := ⟨result, []⟩

/-- Recognises a client by its identifier alone: it must be registered as a public one. -/
def identify (directory : Directory) (clientId : String) : Outcome :=
  .quiet <|
    match directory.findClient clientId with
    | .error unreachable => .error (.unreachable unreachable)
    | .ok none => .ok none
    | .ok (some c) => .ok (if c.kind = .publicClient then some (.identified c) else none)

/-- The first secret on file that the presented one matches. -/
def firstMatch (presented : List UInt8) :
    List Store.Secret → Except Secret.Fault (Option Store.Secret)
  -- With no secret on file one check is made all the same, for the time it takes and nothing else.
  | [] => .ok none
  | secret :: rest => do
    if ← Secret.verify (.bytes presented) secret.hash then pure (some secret)
    else firstMatch presented rest

/-- The log call for a secret that fits but whose owner is no confidential client. -/
def orphanCall (secret : Store.Secret) : Log.Call :=
  { method := .warning, event := "client_secret_without_confidential_configuration"
    fields := [("client_id", .str secret.owner.text), ("secret_id", .str secret.id.text)] }

/-- Recognises the owner of a secret that fits. Who the owner is comes from the record, not from the
caller. -/
def recognizeOwner (directory : Directory) (secret : Store.Secret) : Outcome :=
  match directory.getClient secret.owner with
  | .error unreachable => .quiet (.error (.unreachable unreachable))
  | .ok none => ⟨.ok none, [orphanCall secret]⟩
  | .ok (some c) =>
    if c.kind = .confidentialClient then .quiet (.ok (some (.confidential c)))
    else ⟨.ok none, [orphanCall secret]⟩

/-- Recognises a client by its identifier and a secret, any of those on file for it. -/
def authenticate (directory : Directory) (clientId : String) (presented : List UInt8) : Outcome :=
  match directory.findSecrets clientId with
  | .error unreachable => .quiet (.error (.unreachable unreachable))
  | .ok secrets =>
    match firstMatch presented secrets with
    | .error fault => .quiet (.error (.check fault))
    | .ok none => .quiet (.ok none)
    | .ok (some secret) => recognizeOwner directory secret

end TokenIssuer.Authentication
