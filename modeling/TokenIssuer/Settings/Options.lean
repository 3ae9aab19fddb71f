import TokenIssuer.Json.Basic
import TokenIssuer.Text.Case
import TokenIssuer.Text.Cut

/-!
How variables are read: what their names begin with and where they are cut, whether case matters,
which values count, and whether there is an environment file. Arguments whose names begin with an
underscore say so; one that is null says nothing.
-/

namespace TokenIssuer.Settings

structure Options where
  exactCase : Bool
  start : String
  /-- What joins the parts of a name. Without it only whole sections have a variable. -/
  joint : List Char
  /-- How often a name is cut behind its section, unless at every joint. -/
  cuts : Option Nat
  /-- Variables with an empty value are passed over. -/
  skipsEmpty : Bool
  nullText : Option String
  readsFile : Bool
  deriving DecidableEq, Repr

inductive FileFault where
  | name (kind : String)
  | names (kind : String)
  deriving DecidableEq, Repr

def FileFault.message : FileFault → String
  | .name kind => s!"expected str, bytes or os.PathLike object, not {kind}"
  | .names kind => s!"'{kind}' object is not iterable"

namespace Options

/-- The options of a service that is not told any. -/
def default : Options :=
  { exactCase := false, start := "", joint := ['_', '_'], cuts := none, skipsEmpty := false
    nullText := none, readsFile := true }

/-- The path is that of the environment file, the only file there is. -/
def isFile (path : String) : Bool :=
  !"/".toList.isPrefixOf path.toList &&
    (Text.splitOn '/' path.toList).filter (fun step => step ≠ [] ∧ step ≠ ['.']) = [".env".toList]

/-- Each of the names is a text, and one is that of the environment file. -/
def anyFile : List Json → Except FileFault Bool
  | [] => .ok false
  | name :: rest =>
    match name.phrase? with
    | none => .error (.name name.kind)
    | some path => do
      let found ← anyFile rest
      pure (path.plain?.any isFile || found)

/-- The names given to environment files include that of the one there is. -/
def namesFile : Json → Except FileFault Bool
  | .null => .ok false
  | .str path => .ok (isFile path)
  | .torn _ => .ok false
  | .arr names => anyFile names
  | .obj fields => anyFile (fields.map fun f => .str f.1)
  | other => .error (.names other.kind)

def ofArguments (arguments : Json) : Except FileFault Options := do
  let readsFile ← (arguments.get? "_env_file").elim (.ok true) namesFile
  pure
    { exactCase := (arguments.field "_case_sensitive").isTrue
      start := ((arguments.field "_env_prefix").text?).getD default.start
      joint :=
        ((arguments.field "_env_nested_delimiter").text?.map String.toList).getD default.joint
      cuts := (arguments.field "_env_nested_max_split").int?.bind fun n =>
        if 0 < n then some (n - 1).toNat else none
      skipsEmpty := (arguments.field "_env_ignore_empty").isTrue
      nullText := (arguments.field "_env_parse_none_str").text?
      readsFile }

def fold (o : Options) (name : String) : String := if o.exactCase then name else Text.lowered name

def variableOf (o : Options) (part : String) : String := o.fold (o.start ++ part)

end Options

end TokenIssuer.Settings
