import TokenIssuer.Json.Basic
import TokenIssuer.Number.Show
import TokenIssuer.Text.Cut
import TokenIssuer.Text.Quoted

/-!
A value inside a message. A text stands as it is on its own and quoted inside a list or an object;
the truth values and the absent value are capitalised words.
-/

namespace TokenIssuer.Json

mutual

/-- The value as it is written inside a list or an object. -/
def literalChars : Json → List Char
  | .null => "None".toList
  | .bool b => if b then "True".toList else "False".toList
  | .int i => (toString i).toList
  | .float x => (Number.shortest x).toList
  | .str s => Text.quote s.toList
  | .torn codePoints => (Phrase.torn codePoints).quote
  | .arr vs => '[' :: Text.join ", ".toList (literalItems vs) ++ [']']
  | .obj fs => '{' :: Text.join ", ".toList (literalFields fs) ++ ['}']

def literalItems : List Json → List (List Char)
  | [] => []
  | v :: vs => literalChars v :: literalItems vs

def literalFields : List (String × Json) → List (List Char)
  | [] => []
  | (name, v) :: fs =>
    (Text.quote name.toList ++ ": ".toList ++ literalChars v) :: literalFields fs

end

/-- The value as it stands in a message. -/
def literal : Json → String
  | .str s => s
  | v => String.ofList (literalChars v)

end TokenIssuer.Json
