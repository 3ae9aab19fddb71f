import TokenIssuer.Cli.Arguments
import TokenIssuer.Json.Printer
import TokenIssuer.Secret.Hasher
import TokenIssuer.Settings.Sources

/-!
Provisioning of client secrets from the command line: a secret is hashed, or made and hashed, and
printed together with its hash.
-/

namespace TokenIssuer.Cli

/-- A secret made of random bytes: their Base64, with the two characters that have a meaning in
addresses replaced. -/
def makeSecret (random : List UInt8) : String :=
  String.ofList ((Base64.encode random).map fun c =>
    if c = '+' then '-' else if c = '/' then '_' else c)

structure Random where
  secret : List UInt8
  salt : List UInt8

inductive Fault where
  | settings (fault : Settings.Fault)
  | costs (fault : Secret.CostFault)
  | hash (fault : Secret.Fault)
  deriving DecidableEq, Repr

/-- What is printed for a secret: the secret itself only if it was made here, and its hash. -/
def report (hasher : Secret.Hasher) (random : Random) (given : Option String) :
    Except Secret.Fault (List (String × String)) := do
  let secret := given.getD (makeSecret random.secret)
  let hash ← hasher.hash random.salt (.text secret)
  let shown := if given.isNone then [("client_secret", secret)] else []
  pure (shown ++ [("hashed_secret", hash)])

def reportLine (fields : List (String × String)) : String :=
  (Json.obj (fields.map fun f => (f.1, .str f.2))).print .spaced ++ "\n"

/-- Runs the program with its arguments and the settings of its sources. The settings are read only
once there is something to hash. -/
def run (args : List String) (inputs : Settings.Inputs) (random : Random) : Except Fault Stop :=
  match read args with
  | .error stop => .ok stop
  | .ok given => do
    let settings ← (Settings.load inputs).mapError .settings
    let hasher ←
      (Secret.Hasher.make settings.passes settings.memory settings.lanes).mapError .costs
    let fields ← (report hasher random given).mapError .hash
    pure ⟨0, reportLine fields, ""⟩

end TokenIssuer.Cli
