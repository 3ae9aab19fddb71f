import TokenIssuer.Text.Cut
import TokenIssuer.Text.Digit
import TokenIssuer.Text.Utf8

/-!
The form encoding of texts: a plus sign for a space, and a percent sign before the two hexadecimal
digits of a byte. A percent sign before anything else stands for itself.
-/

namespace TokenIssuer.Percent

open Text

/-- The bytes of a percent-encoded text. A character that is not encoded counts with its bytes in
UTF-8. -/
def bytes : List Char → List UInt8
  | '%' :: a :: b :: cs =>
    match hexValue? a, hexValue? b with
    | some x, some y => UInt8.ofNat (16 * x + y) :: bytes cs
    | _, _ => 0x25 :: bytes (a :: b :: cs)
  | c :: cs => String.utf8EncodeChar c ++ bytes cs
  | [] => []

def plusToSpace (s : List Char) : List Char := s.map fun c => if c = '+' then ' ' else c

/-- The text of a percent-encoded text, with U+FFFD for what is not UTF-8. -/
def decode (s : List Char) : List Char := Utf8.decodeLossy (bytes s)

def decodeForm (s : List Char) : List Char := decode (plusToSpace s)

/-- One field of a form: what stands before and after the first equals sign; without one the value
is empty. -/
def pair (s : List Char) : List Char × List Char :=
  let (name, value) := cut '=' s
  (decodeForm name, decodeForm (value.getD []))

/-- The fields of a form in order; empty pieces between ampersands are none. -/
def pairs (s : List Char) : List (List Char × List Char) :=
  ((splitOn '&' s).filter (!·.isEmpty)).map pair

end TokenIssuer.Percent
