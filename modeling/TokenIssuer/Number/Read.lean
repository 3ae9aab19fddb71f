import TokenIssuer.Text.Cut
import TokenIssuer.Text.Case
import TokenIssuer.Text.Digit
import TokenIssuer.Number.Double

/-!
Numbers read from text. Blanks around a number, a sign, single underscores between digits and the
decimal digits of any script are allowed.
-/

namespace TokenIssuer.Number

open Text

/-- The text with each decimal digit in its ASCII form. -/
def asciiDigits (s : List Char) : List Char :=
  s.map fun c =>
    match digitValue? c with
    | some v => Char.ofNat ('0'.toNat + v)
    | none => c

/-- The blanks that may stand around a number; the control characters that separate records are not
among them. -/
def isNumberBlank (c : Char) : Bool := isBlank c && !(0x1C ≤ c.toNat && c.toNat ≤ 0x1F)

/-- The text of a number without the blanks around it, with its decimal digits in their ASCII form.
-/
def bareNumber (s : List Char) : List Char := dropAround isNumberBlank (asciiDigits s)

def splitSign : List Char → Bool × List Char
  | '-' :: cs => (true, cs)
  | '+' :: cs => (false, cs)
  | cs => (false, cs)

/-- The values of a run of digits in which single underscores may stand between two digits. The
flag tells that a digit comes right before. -/
def digitRun? (value? : Char → Option Nat) : Bool → List Char → Option (List Nat)
  | afterDigit, [] => if afterDigit then some [] else none
  | afterDigit, c :: cs =>
    if c = '_' then
      if afterDigit then digitRun? value? false cs else none
    else do
      let v ← value? c
      let rest ← digitRun? value? true cs
      pure (v :: rest)

/-- The number whose digits in the base are these, the first the highest. -/
def ofDigits (base : Nat) (digits : List Nat) : Nat := digits.foldl (fun n d => n * base + d) 0

def decimalValue? (c : Char) : Option Nat :=
  if '0' ≤ c ∧ c ≤ '9' then some (c.toNat - '0'.toNat) else none

/-- How many digits an integer may be written with. -/
def maxDigits : Nat := 4300

inductive IntFault where
  | malformed
  | tooLong (digits : Nat)
  deriving DecidableEq, Repr

def tooLongMessage (digits : Nat) : String :=
  s!"Exceeds the limit ({maxDigits} digits) for integer string conversion: value has {digits} " ++
    "digits; use sys.set_int_max_str_digits() to increase the limit"

/-- The integer of some digits with a sign, unless they are too many. -/
def ofFewDigits (negative : Bool) (digits : List Nat) : Except IntFault Int :=
  if digits.length > maxDigits then .error (.tooLong digits.length)
  else .ok (if negative then -(ofDigits 10 digits : Int) else ofDigits 10 digits)

/-- An integer in base ten. Its digits are counted before what follows them is looked at. -/
def readInt (s : List Char) : Except IntFault Int :=
  let (negative, body) := splitSign (bareNumber s)
  let (run, rest) := body.span fun c => c = '_' ∨ (decimalValue? c).isSome
  match digitRun? decimalValue? false run with
  | none => .error .malformed
  | some digits => do
    let n ← ofFewDigits negative digits
    if rest.isEmpty then pure n else .error .malformed

/-- What follows a mark `0x` of base sixteen and one underscore after it, or the text itself. -/
def dropHexMark : List Char → List Char
  | '0' :: x :: '_' :: cs => if x = 'x' ∨ x = 'X' then cs else '0' :: x :: '_' :: cs
  | '0' :: x :: cs => if x = 'x' ∨ x = 'X' then cs else '0' :: x :: cs
  | cs => cs

/-- A natural number in base sixteen, possibly with a plus sign and a mark `0x`. -/
def readHex? (s : List Char) : Option Nat := do
  let (negative, body) := splitSign (bareNumber s)
  let digits ← digitRun? hexValue? false (dropHexMark body)
  if negative && ofDigits 16 digits != 0 then none else pure (ofDigits 16 digits)

/-- The text without the underscores that stand between two digits, if there are no others. -/
def dropUnderscores? : (afterDigit : Bool) → List Char → Option (List Char)
  | _, [] => some []
  | afterDigit, '_' :: c :: cs =>
    if afterDigit && (decimalValue? c).isSome then (c :: ·) <$> dropUnderscores? true cs else none
  | _, '_' :: [] => none
  | _, c :: cs => (c :: ·) <$> dropUnderscores? (decimalValue? c).isSome cs

def takeDigits : List Char → List Nat × List Char
  | [] => ([], [])
  | c :: cs =>
    match decimalValue? c with
    | some v => let (vs, rest) := takeDigits cs; (v :: vs, rest)
    | none => ([], c :: cs)

/-- A number written with a point and a power of ten: `digits * 10 ^ exponent`. -/
structure Scientific where
  digits : List Nat
  exponent : Int

def Scientific.toDouble (negative : Bool) (x : Scientific) : Double :=
  let digits := x.digits.dropWhile (· == 0)
  let size : Int := digits.length + x.exponent
  if digits.isEmpty then .signedZero negative
  else if size > 310 then .infinite negative
  else if size < -330 then .signedZero negative
  else if 0 ≤ x.exponent then
    .ofRatio negative (ofDigits 10 digits * Nat.pow 10 x.exponent.toNat) 1
  else .ofRatio negative (ofDigits 10 digits) (Nat.pow 10 (-x.exponent).toNat)

/-- The power of ten after an `e`, and what follows it; without a digit nothing is taken. -/
def takeExponent : List Char → Int × List Char
  | [] => (0, [])
  | e :: cs =>
    if e = 'e' ∨ e = 'E' then
      let (negative, body) := splitSign cs
      match takeDigits body with
      | ([], _) => (0, e :: cs)
      | (digits, rest) =>
        (if negative then -(ofDigits 10 digits : Int) else ofDigits 10 digits, rest)
    else (0, e :: cs)

/-- A number without its sign at the start of a text, and what follows it. -/
def takeScientific (s : List Char) : Scientific × List Char :=
  let (whole, rest) := takeDigits s
  let (fraction, rest) :=
    match rest with
    | '.' :: cs => takeDigits cs
    | _ => ([], rest)
  let (power, rest) := if whole.isEmpty && fraction.isEmpty then (0, s) else takeExponent rest
  (⟨whole ++ fraction, power - fraction.length⟩, rest)

/-- A number with a point, a power of ten, or the name of an infinity or of no number. -/
def readDouble? (s : List Char) : Option Double := do
  let (negative, body) := splitSign (bareNumber s)
  let name := String.ofList (lowerAscii body)
  if name = "inf" ∨ name = "infinity" then some (.infinite negative)
  else if name = "nan" then some .nan
  else
    let plain ← dropUnderscores? false body
    match takeScientific plain with
    | (⟨[], _⟩, _) => none
    | (x, []) => some (x.toDouble negative)
    | _ => none

end TokenIssuer.Number
