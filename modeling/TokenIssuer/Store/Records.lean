import TokenIssuer.Client.Configuration
import TokenIssuer.Store.Table
import TokenIssuer.Uuid

/-!
The records kept about clients and tokens, each with its own table.
-/

namespace TokenIssuer.Store

structure Secret where
  id : Uuid
  owner : Client.Id
  hash : String
  deriving DecidableEq

structure AccessToken where
  id : Uuid
  client : Client.Id
  username : String
  scopes : Option (List String)
  deriving DecidableEq

abbrev Clients := Table Client.Configuration.id

abbrev Secrets := Table Secret.id

abbrev Tokens := Table AccessToken.id

/-- The configuration of the client a text names; the empty text names none. -/
def Clients.find (clients : Clients) (text : String) : Option Client.Configuration :=
  (Client.Id.of? text).bind clients.get?

/-- The secrets on file for the client a text names. -/
def Secrets.ownedBy (secrets : Secrets) (text : String) : List Secret :=
  secrets.select fun s => s.owner.text = text

def Secrets.ofClient (secrets : Secrets) (id : Client.Id) : List Secret :=
  secrets.select fun s => s.owner = id

end TokenIssuer.Store
