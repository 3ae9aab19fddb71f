import TokenIssuer.Json.Basic
import TokenIssuer.Number.Read
import TokenIssuer.Settings.Problem

/-!
Reading the values of settings. Numbers and truth values may also be written as texts, since that is
all an environment has.
-/

namespace TokenIssuer.Settings

/-- An integer as JSON writes it: digits, the first of which is no zero unless it is the only one,
and possibly a minus sign. The digits are counted before what follows them is looked at. -/
def plainInt (s : List Char) : Except Number.IntFault Int :=
  let (negative, body) :=
    match s with
    | '-' :: cs => (true, cs)
    | _ => (false, s)
  match Number.takeDigits body with
  | ([], _) => .error .malformed
  | (0 :: _ :: _, _) => .error .malformed
  | (digits, rest) => do
    let n ← Number.ofFewDigits negative digits
    if rest.isEmpty then pure n else .error .malformed

/-- Digits without the zeros in front, which may have underscores among them. The last zero is kept
before a point and at the end. After zeros a minus sign may still come. -/
def dropLeadingZeros? (s : List Char) : Option (List Char) :=
  match s with
  | [] => none
  | c :: cs =>
    if c = '0' then
      let zeros := cs.takeWhile fun c => c = '0' ∨ c = '_'
      match cs.drop zeros.length with
      | [] => (c :: cs).getLast?.map ([·])
      | d :: ds =>
        if d = '.' then some ((c :: zeros).getLastD c :: d :: ds)
        else if (Number.decimalValue? d).isSome ∨ d = '-' then some (d :: ds)
        else none
    else if (Number.decimalValue? c).isSome then some s
    else none

/-- The same behind a sign, of which only a minus sign is kept. -/
def dropSignedZeros? : List Char → Option (List Char)
  | '-' :: cs => ('-' :: ·) <$> dropLeadingZeros? cs
  | '+' :: cs => dropLeadingZeros? cs
  | s => dropLeadingZeros? s

/-- The text without a point that is followed by zeros only, of which there is at least one. -/
def dropZeroFraction (s : List Char) : List Char :=
  match Text.cut '.' s with
  | (whole, some (c :: cs)) => if (c :: cs).all (· = '0') then whole else s
  | _ => s

/-- The text without its underscores, unless one stands at an end or next to another. -/
def dropSingleUnderscores (s : List Char) : List Char :=
  let pieces := Text.splitOn '_' s
  if pieces.any (·.isEmpty) then s else pieces.flatten

/-- The text of an integer without all that JSON does not allow: blanks around it, a plus sign,
zeros in front, single underscores, and zeros after a point. -/
def tidyInt? (s : List Char) : Option (List Char) :=
  (dropSignedZeros? (Text.dropAround Number.isNumberBlank s)).map fun s =>
    dropSingleUnderscores (dropZeroFraction s)

/-- An integer written as a text. It is read as it is, and if it is not written like an integer once
more when it has been tidied up; that it has too many digits is told apart only the first time. -/
def intOfText (s : List Char) : Except Problem Int :=
  match plainInt s with
  | .ok n => .ok n
  | .error (.tooLong _) => .error .intSize
  | .error .malformed =>
    match tidyInt? s with
    | none => .error .intParsing
    | some tidy => (plainInt tidy).mapError fun _ => .intParsing

/-- An integer given as a double: it must be one, and of at most sixty-four bits. -/
def intOfDouble (x : Double) : Except Problem Int :=
  match x with
  | .finite .. =>
    match x.toInt? with
    | none => .error .intFromFloat
    | some n =>
      if -0x8000000000000000 < n ∧ n < 0x8000000000000000 then .ok n else .error .intSize
  | _ => .error .finiteNumber

/-- An integer. A truth value counts as zero or one. -/
def readInt : Json → Except Problem Int
  | .int n => .ok n
  | .bool b => .ok (if b then 1 else 0)
  | .float x => intOfDouble x
  | .str s => intOfText s.toList
  | .torn _ => .error .stringUnicode
  | _ => .error .intType

/-- An integer of at least a given size. -/
def readIntFrom (least : Int) (value : Json) : Checked Int :=
  match readInt value with
  | .error problem => Checked.fail problem
  | .ok n => if n < least then Checked.fail (.tooSmall least) else .ok n

def readText (value : Json) : Checked Phrase :=
  match value.phrase? with
  | some text => .ok text
  | none => Checked.fail .stringType

def trueWords : List String := ["1", "on", "t", "true", "y", "yes"]

def falseWords : List String := ["0", "off", "f", "false", "n", "no"]

/-- A truth value. The numbers zero and one count as well; one of more than sixty-four bits is not
even looked at. -/
def readBool : Json → Checked Bool
  | .bool b => .ok b
  | .str s =>
    let word := String.ofList (Text.lowerAscii s.toList)
    if word ∈ trueWords then .ok true
    else if word ∈ falseWords then .ok false
    else Checked.fail .boolParsing
  | .int n =>
    if -0x8000000000000000 ≤ n ∧ n < 0x8000000000000000 then ofInt n else Checked.fail .boolType
  | .float x =>
    match intOfDouble x with
    | .ok n => ofInt n
    | .error _ => Checked.fail .boolType
  | .torn _ => Checked.fail .stringUnicode
  | _ => Checked.fail .boolType
where
  ofInt (n : Int) : Checked Bool :=
    if n = 0 then .ok false else if n = 1 then .ok true else Checked.fail .boolParsing

def readChoice {α : Type} (choices : List (String × α)) (value : Json) : Checked α :=
  match value, value.text?.bind (List.lookup · choices) with
  | _, some x => .ok x
  | .torn _, _ => Checked.fail .stringUnicode
  | _, none => Checked.fail (.choice (choices.map (·.1)))

def readTexts : Json → Checked (List Phrase)
  | .arr items => Checked.all readText 0 items
  | _ => Checked.fail .listType

end TokenIssuer.Settings
