import TokenIssuer.Text.Quoted

/-!
Texts from outside. An escape of JSON can write half of a surrogate pair on its own, which is no
character; a text with such a half in it is kept as its code points.
-/

namespace TokenIssuer

/-- A text from outside. -/
inductive Phrase where
  | plain (text : String)
  /-- A text with halves of surrogate pairs in it, as its code points. -/
  | torn (codePoints : List Nat)
  deriving DecidableEq, Repr

namespace Phrase

/-- The code point is that of half of a surrogate pair. -/
def isHalf (n : Nat) : Bool := 0xD800 ≤ n && n < 0xE000

def ofCodePoints (codePoints : List Nat) : Phrase :=
  if codePoints.any isHalf then .torn codePoints
  else .plain (String.ofList (codePoints.map Char.ofNat))

def codePoints : Phrase → List Nat
  | .plain text => text.toList.map Char.toNat
  | .torn codePoints => codePoints

/-- The text, if it has characters only. -/
def plain? : Phrase → Option String
  | .plain text => some text
  | .torn _ => none

/-- The character of a code point, with U+FFFD for half of a surrogate pair. -/
def charOf (n : Nat) : Char := if isHalf n then '\uFFFD' else Char.ofNat n

/-- The characters of a text, with U+FFFD for each half of a surrogate pair. -/
def chars : Phrase → List Char
  | .plain text => text.toList
  | .torn codePoints => codePoints.map charOf

def quoteCodePoint (q : Char) (n : Nat) : List Char :=
  if isHalf n then '\\' :: 'u' :: Text.hexDigits 4 n else Text.quoteChar q (Char.ofNat n)

def quote (p : Phrase) : List Char :=
  let q := Text.quoteFor p.chars
  q :: p.codePoints.flatMap (quoteCodePoint q) ++ [q]

end Phrase

end TokenIssuer
