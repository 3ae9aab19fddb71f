import TokenIssuer.Text.Cut
import TokenIssuer.Text.Order

/-!
Scope names: which ones are known, how a requested scope text is read against them, and how a set of
them is written.
-/

namespace TokenIssuer.Scope

inductive Fault where
  | empty
  | blank
  | unknown
  | duplicate
  deriving DecidableEq, Repr

def Fault.message : Fault → String
  | .empty => "defined but empty scopes"
  | .blank => "defined but blank scopes"
  | .unknown => "defined but invalid scope provided"
  | .duplicate => "defined but duplicate scope provided"

structure Registry where
  names : List String
  deriving DecidableEq, Repr

namespace Registry

def ofNames (names : List String) : Registry := ⟨Text.setOf names⟩

def knows (r : Registry) (name : String) : Bool := name ∈ r.names

def get (r : Registry) (name : String) : Except Fault String :=
  if r.knows name then .ok name else .error .unknown

end Registry

/-- The names in a scope text: the pieces between spaces, blanks around them aside, that are not
empty. -/
def tokens (raw : String) : List String :=
  (((Text.splitOn ' ' raw.toList).map Text.trim).filter (!·.isEmpty)).map String.ofList

/-- Reads a scope text against the registry. A name that comes twice is refused rather than dropped,
since the set would hide it. -/
def Registry.parseText (r : Registry) (raw : String) : Except Fault (List String) :=
  if raw = "" then .error .empty
  else if tokens raw = [] then .error .blank
  else if !(tokens raw).all r.knows then .error .unknown
  else if ¬(tokens raw).Nodup then .error .duplicate
  else .ok (Text.setOf (tokens raw))

/-- Reads an optional scope text; without one there are no scopes to speak of. -/
def Registry.parse (r : Registry) : Option String → Except Fault (Option (List String))
  | none => .ok none
  | some raw => (r.parseText raw).map some

/-- The names in order with a space between them. -/
def format (names : List String) : String :=
  String.ofList (Text.join [' '] ((Text.sortTexts names).map String.toList))

end TokenIssuer.Scope
