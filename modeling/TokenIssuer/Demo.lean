import TokenIssuer.Scope
import TokenIssuer.Secret.Hasher
import TokenIssuer.Store.Records

/-!
The demo clients: a confidential one that may do everything with a secret that is no secret, and a
public one.
-/

namespace TokenIssuer.Demo

open Client Store

def confidentialId : Id := ⟨"aardvark", by decide⟩

def confidentialSecret : String := "badger"

def publicId : Id := ⟨"badger", by decide⟩

def scopeName : String := "basic"

/-- The configurations of both clients, if their scope is known. -/
def configurations (registry : Scope.Registry) : Except Scope.Fault (List Configuration) := do
  let scope ← registry.get scopeName
  pure
    [{ id := confidentialId, kind := .confidentialClient, redirectUris := [], scopes := [scope]
       actions := [.introspect], grants := [.password] },
     { id := publicId, kind := .publicClient, redirectUris := [], scopes := [scope], actions := []
       grants := [] }]

/-- The secret of the confidential client, hashed with a salt and on file under an identifier. -/
def secrets (hasher : Secret.Hasher) (salt : List UInt8) (id : Uuid) :
    Except Secret.Fault (List Store.Secret) := do
  let hash ← hasher.hash salt (.text confidentialSecret)
  pure [⟨id, confidentialId, hash⟩]

end TokenIssuer.Demo
