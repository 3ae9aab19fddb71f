import TokenIssuer.Store.Records

/-!
Stores that cannot be reached. Every call of such a store fails, and a failure is kept apart from a
row that is not there.
-/

namespace TokenIssuer.Store

inductive Name where
  | configurations
  | secrets
  | tokens
  deriving DecidableEq, Repr

def Name.text : Name → String
  | .configurations => "configurations"
  | .secrets => "secrets"
  | .tokens => "tokens"

structure Unreachable where
  store : Name
  deriving DecidableEq, Repr

def Unreachable.message (u : Unreachable) : String := u.store.text ++ " store unreachable"

/-- The three stores and the ones of them that cannot be reached. -/
structure Stores where
  clients : Clients
  secrets : Secrets
  tokens : Tokens
  down : List Name
  deriving Inhabited

namespace Stores

/-- Empty stores, all of which can be reached. -/
def empty : Stores := ⟨.empty, .empty, .empty, []⟩

/-- What a store answers, if it can be reached. -/
def call {α : Type} (s : Stores) (store : Name) (answer : α) : Except Unreachable α :=
  if store ∈ s.down then .error ⟨store⟩ else .ok answer

def findClient (s : Stores) (text : String) : Except Unreachable (Option Client.Configuration) :=
  s.call .configurations (s.clients.find text)

def getClient (s : Stores) (id : Client.Id) : Except Unreachable (Option Client.Configuration) :=
  s.call .configurations (s.clients.get? id)

def findSecrets (s : Stores) (text : String) : Except Unreachable (List Secret) :=
  s.call .secrets (s.secrets.ownedBy text)

def getToken (s : Stores) (id : Uuid) : Except Unreachable (Option AccessToken) :=
  s.call .tokens (s.tokens.get? id)

def saveToken (s : Stores) (token : AccessToken) : Except Unreachable Stores :=
  s.call .tokens { s with tokens := s.tokens.put token }

end Stores

end TokenIssuer.Store
