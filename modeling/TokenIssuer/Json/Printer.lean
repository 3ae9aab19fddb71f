import TokenIssuer.Json.Basic
import TokenIssuer.Number.Show
import TokenIssuer.Text.Cut
import TokenIssuer.Text.Digit

/-!
Writing JSON on one line, in one of two styles: in ASCII with blanks between the parts, where what
is not ASCII is written as code units of four hexadecimal digits, or as it is and without blanks.
-/

namespace TokenIssuer.Json

inductive Style where
  /-- In ASCII, with blanks after commas and colons. -/
  | spaced
  | compact
  deriving DecidableEq, Repr

def Style.comma : Style → List Char
  | .spaced => [',', ' ']
  | .compact => [',']

def Style.colon : Style → List Char
  | .spaced => [':', ' ']
  | .compact => [':']

def printChar (style : Style) (c : Char) : List Char :=
  let n := c.toNat
  if c = '"' then ['\\', '"']
  else if c = '\\' then ['\\', '\\']
  else if c = '\n' then ['\\', 'n']
  else if c = '\r' then ['\\', 'r']
  else if c = '\t' then ['\\', 't']
  else if n = 8 then ['\\', 'b']
  else if n = 12 then ['\\', 'f']
  else if 0x20 ≤ n ∧ (n < 0x80 ∨ style = .compact) then [c]
  else if n < 0x10000 then '\\' :: 'u' :: Text.hexDigits 4 n
  else
    '\\' :: 'u' :: Text.hexDigits 4 (0xD800 + (n - 0x10000) / 0x400) ++
      '\\' :: 'u' :: Text.hexDigits 4 (0xDC00 + (n - 0x10000) % 0x400)

def printText (style : Style) (s : String) : List Char :=
  '"' :: s.toList.flatMap (printChar style) ++ ['"']

/-- A text with halves of surrogate pairs in it, which are code units of their own. -/
def printTorn (style : Style) (codePoints : List Nat) : List Char :=
  let one (n : Nat) : List Char :=
    if Phrase.isHalf n then '\\' :: 'u' :: Text.hexDigits 4 n else printChar style (Char.ofNat n)
  '"' :: codePoints.flatMap one ++ ['"']

/-- A double; the ones that are not finite are written by name. -/
def printDouble : Double → List Char
  | .nan => "NaN".toList
  | .infinite negative => if negative then "-Infinity".toList else "Infinity".toList
  | x => (Number.shortest x).toList

mutual

def printChars (style : Style) : Json → List Char
  | .null => "null".toList
  | .bool b => if b then "true".toList else "false".toList
  | .int i => (toString i).toList
  | .float x => printDouble x
  | .str s => printText style s
  | .torn codePoints => printTorn style codePoints
  | .arr vs => '[' :: Text.join style.comma (printItems style vs) ++ [']']
  | .obj fs => '{' :: Text.join style.comma (printFields style fs) ++ ['}']

def printItems (style : Style) : List Json → List (List Char)
  | [] => []
  | v :: vs => printChars style v :: printItems style vs

def printFields (style : Style) : List (String × Json) → List (List Char)
  | [] => []
  | (name, v) :: fs =>
    (printText style name ++ style.colon ++ printChars style v) :: printFields style fs

end

def print (style : Style) (value : Json) : String := String.ofList (printChars style value)

end TokenIssuer.Json
