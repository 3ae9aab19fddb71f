import TokenIssuer.Cli.Provisioning
import TokenIssuer.Text.Utf8

/-!
The program. It gathers what a run depends on, the environment, the environment file and random
bytes, and prints what the run says.
-/

open TokenIssuer

def readOrEmpty (path : String) : IO String := do
  try
    let bytes ← IO.FS.readBinFile path
    pure (String.ofList (Utf8.decodeLossy bytes.toList))
  catch _ => pure ""

/-- The variables of the environment of this process. -/
def readVariables : IO (List (String × String)) := do
  let text ← readOrEmpty "/proc/self/environ"
  pure ((Text.splitOn '\x00' text.toList).filterMap fun entry =>
    match Text.cut '=' entry with
    | (name, some value) => some (String.ofList name, String.ofList value)
    | (_, none) => none)

def main (args : List String) : IO UInt32 := do
  let environment ← readVariables
  let file ← readOrEmpty ".env"
  let secret ← IO.getRandomBytes 32
  let salt ← IO.getRandomBytes 16
  match Cli.run args ⟨.obj [], environment, file⟩ ⟨secret.toList, salt.toList⟩ with
  | .ok stop =>
    (← IO.getStdout).putStr stop.out
    (← IO.getStderr).putStr stop.err
    pure (UInt32.ofNat stop.exit)
  | .error (.settings fault) => fail fault.message
  | .error (.costs fault) => fail fault.message
  | .error (.hash fault) => fail fault.message
where
  fail (message : String) : IO UInt32 := do
    (← IO.getStderr).putStrLn message
    pure 1
