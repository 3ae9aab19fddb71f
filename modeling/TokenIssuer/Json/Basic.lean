import TokenIssuer.Number.Double
import TokenIssuer.Text.Phrase

/-!
JSON values. An integer and a number with a point or a power of ten are two kinds of value, and an
object is a list of fields in the order in which their names were first written.
-/

namespace TokenIssuer

inductive Json where
  | null
  | bool (value : Bool)
  /-- A number written without point and power of ten. -/
  | int (value : Int)
  | float (value : Double)
  | str (value : String)
  /-- A text with halves of surrogate pairs in it, as its code points. -/
  | torn (codePoints : List Nat)
  | arr (items : List Json)
  | obj (fields : List (String × Json))
  deriving BEq, Repr, Inhabited

namespace Json

/-- A text that may have halves of surrogate pairs in it. -/
def ofPhrase : Phrase → Json
  | .plain text => .str text
  | .torn codePoints => .torn codePoints

/-- An optional text, null when there is none. -/
def ofText? : Option String → Json
  | some s => .str s
  | none => .null

def ofTexts (ss : List String) : Json := .arr (ss.map .str)

/-- The fields of an object; other values have none. -/
def fields : Json → List (String × Json)
  | .obj fs => fs
  | _ => []

/-- The items of a list; other values have none. -/
def items : Json → List Json
  | .arr vs => vs
  | _ => []

def get? (value : Json) (name : String) : Option Json := value.fields.lookup name

/-- The field of an object, null when it is absent. -/
def field (value : Json) (name : String) : Json := (value.get? name).getD .null

def text? : Json → Option String
  | .str s => some s
  | _ => none

/-- The text, if the value is one, even with halves of surrogate pairs in it. -/
def phrase? : Json → Option Phrase
  | .str s => some (.plain s)
  | .torn codePoints => some (.torn codePoints)
  | _ => none

def int? : Json → Option Int
  | .int i => some i
  | _ => none

/-- The value counts as true where a condition is expected: it is neither null, false, zero nor
empty. -/
def isTrue : Json → Bool
  | .null => false
  | .bool b => b
  | .int i => i != 0
  | .float x => !x.isZero
  | .str s => s != ""
  | .torn codePoints => !codePoints.isEmpty
  | .arr vs => !vs.isEmpty
  | .obj fs => !fs.isEmpty

/-- What kind of value it is, as messages call it. -/
def kind : Json → String
  | .null => "NoneType"
  | .bool _ => "bool"
  | .int _ => "int"
  | .float _ => "float"
  | .str _ | .torn _ => "str"
  | .arr _ => "list"
  | .obj _ => "dict"

mutual

/-- Every number in the value is finite. -/
def isFinite : Json → Bool
  | .float x => x.isFinite
  | .arr vs => areFinite vs
  | .obj fs => fieldsAreFinite fs
  | _ => true

def areFinite : List Json → Bool
  | [] => true
  | v :: vs => isFinite v && areFinite vs

def fieldsAreFinite : List (String × Json) → Bool
  | [] => true
  | (_, v) :: fs => isFinite v && fieldsAreFinite fs

end

end Json

end TokenIssuer
