import TokenIssuer.Client.Configuration

/-!
A client that was recognised in a request. How it was recognised is kept apart from what is
registered about it.
-/

namespace TokenIssuer.Client

inductive Principal where
  | confidential (configuration : Configuration)
  | identified (configuration : Configuration)
  deriving DecidableEq

namespace Principal

def configuration : Principal → Configuration
  | .confidential c => c
  | .identified c => c

def id (p : Principal) : Id := p.configuration.id

def mayUse (p : Principal) (grant : Grant) : Bool := grant ∈ p.configuration.grants

def mayBeIssued (p : Principal) (scope : String) : Bool := scope ∈ p.configuration.scopes

def mayPerform (p : Principal) (action : Action) : Bool := action ∈ p.configuration.actions

/-- It presented a secret. -/
def isConfidential : Principal → Bool
  | .confidential _ => true
  | .identified _ => false

end Principal

end TokenIssuer.Client
