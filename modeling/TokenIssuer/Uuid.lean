import TokenIssuer.Text.Cut
import TokenIssuer.Text.Digit
import TokenIssuer.Text.Quoted
import TokenIssuer.Number.Read

/-!
The identifiers of tokens and secrets: numbers of 128 bits, shown as thirty-two hexadecimal digits
in five groups.
-/

namespace TokenIssuer

structure Uuid where
  bits : BitVec 128
  deriving DecidableEq, Repr, Inhabited

namespace Uuid

inductive Fault where
  | length
  | digits (text : List Char)
  deriving DecidableEq, Repr

def Fault.message : Fault → String
  | .length => "badly formed hexadecimal UUID string"
  | .digits text =>
    "invalid literal for int() with base 16: " ++ String.ofList ((Text.quote text).take 200)

/-- The text with its marks `urn:` and `uuid:`, the braces around it and its hyphens removed. -/
def bare (s : List Char) : List Char :=
  let unmarked := Text.replace "uuid:".toList [] (Text.replace "urn:".toList [] s)
  (Text.dropAround (fun c => c = '{' || c = '}') unmarked).filter (· ≠ '-')

/-- Reads an identifier. What is left after `bare` must be thirty-two characters that are read as a
number in base sixteen. -/
def read (s : List Char) : Except Fault Uuid :=
  let digits := bare s
  if digits.length = 32 then
    match Number.readHex? digits with
    | some n => .ok ⟨BitVec.ofNat 128 n⟩
    | none => .error (.digits digits)
  else .error .length

def read? (s : List Char) : Option Uuid := (read s).toOption

/-- The canonical form: groups of eight, four, four, four and twelve digits. -/
def chars (u : Uuid) : List Char :=
  let digits := Text.hexDigits 32 u.bits.toNat
  digits.take 8 ++ '-' :: (digits.drop 8).take 4 ++ '-' :: (digits.drop 12).take 4 ++
    '-' :: (digits.drop 16).take 4 ++ '-' :: digits.drop 20

def text (u : Uuid) : String := String.ofList u.chars

end Uuid

end TokenIssuer
