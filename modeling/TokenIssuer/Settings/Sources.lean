import TokenIssuer.Json.Parser
import TokenIssuer.Settings.EnvironmentFile
import TokenIssuer.Settings.Options
import TokenIssuer.Settings.Schema

/-!
Where settings come from: arguments, which win over the environment, which wins over an environment
file. A variable names a section, whose value is then JSON, or a field of a section behind a joint;
unless the options say otherwise, that is two underscores, and letters may be of either case.
-/

namespace TokenIssuer.Settings

inductive Source where
  | environment
  | file
  deriving DecidableEq, Repr

def Source.name : Source → String
  | .environment => "EnvSettingsSource"
  | .file => "DotEnvSettingsSource"

/-- A text that should be JSON and is not. -/
structure Undecodable where
  part : String
  source : Source
  deriving DecidableEq, Repr

def Undecodable.message (u : Undecodable) : String :=
  s!"error parsing value for field \"{u.part}\" from source \"{u.source.name}\""

/-- The sections in order, each with its fields. -/
def parts : List (String × List String) :=
  [("app", ["environment", "service", "log_level"]),
   ("token", ["access_token_ttl_seconds"]),
   ("scopes", ["valid_scopes"]),
   ("hashing", ["time_cost", "memory_cost", "parallelism"]),
   ("clients", ["seed_demo_clients", "realm"])]

inductive Fault where
  | files (fault : FileFault)
  | undecodable (fault : Undecodable)
  /-- A text that should be JSON has a value of a kind inside too many others. -/
  | tooDeep (kind : String)
  | invalid (problems : List Invalid)
  deriving DecidableEq, Repr

/-- The message for settings that there are not: one line for each problem. -/
def Fault.message : Fault → String
  | .files fault => fault.message
  | .undecodable fault => fault.message
  | .tooDeep kind => (Json.Fault.tooDeep kind).message []
  | .invalid problems => "\n".intercalate (problems.map fun p => p.problem.message)

/-- The value a text of a source stands for. -/
def decode (source : Source) (part text : String) : Except Fault Json :=
  (Json.parse text.toList).mapError fun
    | .tooDeep kind => .tooDeep kind
    | _ => .undecodable ⟨part, source⟩

mutual

/-- One value laid over another: objects are merged field by field, anything else is replaced. -/
def overlay (base : Json) : Json → Json
  | .obj fields =>
    match base with
    | .obj under => .obj (overlayFields under fields)
    | _ => .obj fields
  | value => value

def overlayFields (under : List (String × Json)) : List (String × Json) → List (String × Json)
  | [] => under
  | (name, value) :: rest =>
    let value :=
      match under.lookup name with
      | some base => overlay base value
      | none => value
    overlayFields (Assoc.put name value under) rest

end

/-- Puts a value at the end of a way of names; objects are made on the way, and a value on the way
that is no object stays as it is. -/
def assign (last : String) (value : Json) : List String → Json → Json
  | [], .obj fields => .obj (Assoc.put last value fields)
  | key :: keys, .obj fields =>
    .obj (Assoc.put key (assign last value keys ((fields.lookup key).getD (.obj []))) fields)
  | _, other => other

/-- Cuts a name at each joint from the left, at most `cuts` times if that is limited. The next
`passed` characters belong to a joint. -/
def splitName (joint : List Char) :
    (cuts : Option Nat) → (passed : Nat) → List Char → List (List Char)
  | _, _, [] => [[]]
  | cuts, passed + 1, _ :: cs => splitName joint cuts passed cs
  | cuts, 0, c :: cs =>
    if cuts ≠ some 0 ∧ joint.isPrefixOf (c :: cs) then
      [] :: splitName joint (cuts.map (· - 1)) (joint.length - 1) cs
    else
      match splitName joint cuts 0 cs with
      | [] => [[c]]
      | piece :: pieces => (c :: piece) :: pieces

/-- Variables as their names are compared, each with its value if it has one. -/
abbrev Variables := List (String × Option String)

/-- The variables that count; of two whose names are the same the later one does. -/
def foldNames (options : Options) (vars : Variables) : Variables :=
  (vars.filter fun v => !(options.skipsEmpty && v.2 = some "")).foldl
    (fun acc v => Assoc.put (options.fold v.1) v.2 acc) []

/-- A section whose fields may be written in either case; of two that fall together the later one
counts. Names of no field stay as they are. -/
def foldFields (names : List String) : Json → Json
  | .obj fields =>
    .obj (fields.foldl (fun acc f =>
      Assoc.put ((names.find? fun n => n = Text.lowered f.1).getD f.1) f.2 acc) [])
  | value => value

/-- Arguments whose names may be written in either case; of two for one section the earlier one
counts, and names of no section are passed over. -/
def foldArguments (arguments : Json) : Json :=
  .obj (parts.filterMap fun part =>
    (arguments.fields.find? fun f => Text.lowered f.1 = part.1).map fun f => (part.1, f.2))

/-- The value of a variable for a field, `none` for one that only stands for null. The list of
scopes is given as JSON. -/
def fieldValue (source : Source) (options : Options) (part : String) (way : List String)
    (value : Option String) : Except Fault (Option Json) :=
  match value with
  | none => .ok (some .null)
  | some text =>
    if part = "scopes" ∧ way = ["valid_scopes"] ∧ text ≠ "" then some <$> decode source part text
    else if options.nullText = some text then .ok none
    else .ok (some (.str text))

/-- The value at the end of a way of names, if it is there and more than an empty object. -/
def present : List String → Json → Bool
  | [], value => !(value == .obj [])
  | key :: keys, value => (value.get? key).any (present keys)

/-- The fields of a section that variables of their own give. -/
def collectFields (source : Source) (options : Options) (part : String) :
    Json → Variables → Except Fault Json
  | found, [] => .ok found
  | found, (name, value) :: rest =>
    let mark := (options.variableOf part).toList ++ options.joint
    if !options.joint.isEmpty && mark.isPrefixOf name.toList then do
      let pieces := splitName options.joint options.cuts 0 (name.toList.drop mark.length)
      let way := pieces.map String.ofList
      let put (value : Json) := assign (way.getLastD "") value way.dropLast found
      let found ←
        match ← fieldValue source options part way value with
        | some value => pure (put value)
        -- What stands for null does not replace what is there.
        | none => pure (if present way found then found else put .null)
      collectFields source options part found rest
    else collectFields source options part found rest

/-- The value of a section in a source, if there is one. -/
def readPart (source : Source) (options : Options) (vars : Variables) (part : String) :
    Except Fault (Option Json) := do
  match (vars.lookup (options.variableOf part)).join with
  | none => do
    let found ← collectFields source options part (.obj []) vars
    pure (if found.isTrue then some found else none)
  | some text =>
    if options.nullText = some text then pure (some .null)
    else
      match ← decode source part text with
      -- A section given as null counts as absent, and so do the variables of its fields.
      | .null => pure none
      | .obj fields => do
        let found ← collectFields source options part (.obj []) vars
        pure (some (overlay (.obj fields) found))
      | value => pure (some value)

def readSource (source : Source) (options : Options) (vars : Variables) : Except Fault Json := do
  let found ← parts.mapM fun part => do
    let value ← readPart source options (foldNames options vars) part.1
    pure (value.map fun value =>
      (part.1, if options.exactCase then value else foldFields part.2 value))
  pure (.obj (found.filterMap id))

structure Inputs where
  arguments : Json
  environment : List (String × String)
  file : String

def Inputs.ofEnvironment (environment : List (String × String)) : Inputs :=
  { arguments := .obj [], environment, file := "" }

def load (inputs : Inputs) : Except Fault Settings := do
  let options ← (Options.ofArguments inputs.arguments).mapError .files
  let environment ←
    readSource .environment options (inputs.environment.map fun v => (v.1, some v.2))
  let text := if options.readsFile then inputs.file else ""
  let file ← readSource .file options (EnvironmentFile.read inputs.environment text)
  (Settings.read (overlay (overlay file environment) (foldArguments inputs.arguments))).mapError
    .invalid

end TokenIssuer.Settings
