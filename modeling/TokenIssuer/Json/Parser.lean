import TokenIssuer.Assoc
import TokenIssuer.Json.Basic
import TokenIssuer.Number.Read

/-!
Reading JSON. The reader goes once through the text and stops at the first fault, which it reports
with its place. The names of the infinities and of no number are read too.
-/

namespace TokenIssuer.Json

inductive Fault where
  /-- Something else was expected, or something is not allowed, where `rest` was still to be
  read. -/
  | malformed (what : String) (rest : List Char)
  | tooLong (digits : Nat)
  /-- A value of a kind, a list or an object, is inside too many others. -/
  | tooDeep (kind : String)

/-- The message for a fault in `source`: what is wrong, and the line, the column and the number of
characters before it. What is only too large is told without its place. -/
def Fault.message (source : List Char) : Fault → String
  | .tooLong digits => Number.tooLongMessage digits
  | .tooDeep kind =>
    s!"maximum recursion depth exceeded while decoding a JSON {kind} from a unicode string"
  | .malformed what rest =>
    let offset := source.length - rest.length
    let before := source.take offset
    let line := before.count '\n' + 1
    let column := (before.reverse.takeWhile (· ≠ '\n')).length + 1
    s!"{what}: line {line} column {column} (char {offset})"

/-- Drops the blanks that may stand between the parts of a value. -/
def skipBlanks (s : List Char) : List Char :=
  s.dropWhile fun c => c = ' ' || c = '\t' || c = '\n' || c = '\r'

/-- The value of four hexadecimal digits, which do not end the text. -/
def fourHex? : List Char → Option (Nat × List Char)
  | a :: b :: c :: d :: e :: cs => do
    let digits ← [a, b, c, d].mapM Text.hexValue?
    pure (Number.ofDigits 16 digits, e :: cs)
  | _ => none

/-- The code point that starts with a code unit. A first half of a pair is joined with a second half
right after it. -/
def readUnit (unit : Nat) (cs : List Char) : Nat × List Char :=
  if 0xD800 ≤ unit ∧ unit < 0xDC00 then
    match cs with
    | '\\' :: 'u' :: more =>
      match fourHex? more with
      | some (low, rest) =>
        if 0xDC00 ≤ low ∧ low < 0xE000 then
          (0x10000 + (unit - 0xD800) * 0x400 + (low - 0xDC00), rest)
        -- The second unit is no second half: it is read again, as a character of its own.
        else (unit, cs)
      | none => (unit, cs)
    | _ => (unit, cs)
  else (unit, cs)

/-- The character after a backslash that stands for itself or for a control character. -/
def escaped? : Char → Option Char
  | '"' => some '"'
  | '\\' => some '\\'
  | '/' => some '/'
  | 'b' => some '\x08'
  | 'f' => some '\x0c'
  | 'n' => some '\n'
  | 'r' => some '\r'
  | 't' => some '\t'
  | _ => none

/-- The code points of the rest of a text after its opening quote, and what follows the closing one.
`start` is the text from the opening quote on. -/
def readText (start : List Char) :
    (fuel : Nat) → List Char → Except Fault (List Nat × List Char)
  | 0, _ => .error (.malformed "Unterminated string starting at" start)
  | fuel + 1, s =>
    match s with
    | [] => .error (.malformed "Unterminated string starting at" start)
    | '"' :: cs => .ok ([], cs)
    | '\\' :: 'u' :: cs =>
      match fourHex? cs with
      | none => .error (.malformed "Invalid \\uXXXX escape" ('u' :: cs))
      | some (unit, cs) => do
        let (n, cs) := readUnit unit cs
        let (text, rest) ← readText start fuel cs
        pure (n :: text, rest)
    | '\\' :: e :: cs =>
      match escaped? e with
      | none => .error (.malformed "Invalid \\escape" ('\\' :: e :: cs))
      | some c => do
        let (text, rest) ← readText start fuel cs
        pure (c.toNat :: text, rest)
    | ['\\'] => .error (.malformed "Unterminated string starting at" start)
    | c :: cs =>
      if c.toNat < 0x20 then .error (.malformed "Invalid control character at" (c :: cs))
      else do
        let (text, rest) ← readText start fuel cs
        pure (c.toNat :: text, rest)

/-- A text that starts right after its opening quote. -/
def quoted (cs : List Char) : Except Fault (List Nat × List Char) :=
  readText ('"' :: cs) (cs.length + 1) cs

/-- The digits of the whole part of a number: a single zero, or digits that do not start with
one. -/
def wholeDigits : List Char → List Nat × List Char
  | '0' :: cs => ([0], cs)
  | cs => Number.takeDigits cs

/-- The digits after the point; without one after the point nothing is taken. -/
def fractionDigits (s : List Char) : List Nat × List Char :=
  match s with
  | '.' :: cs =>
    match Number.takeDigits cs with
    | ([], _) => ([], s)
    | taken => taken
  | _ => ([], s)

def number (s : List Char) : Except Fault (Json × List Char) :=
  let (negative, body) :=
    match s with
    | '-' :: cs => (true, cs)
    | _ => (false, s)
  match wholeDigits body with
  | ([], _) => .error (.malformed "Expecting value" s)
  | (whole, afterWhole) =>
    let (fraction, afterFraction) := fractionDigits afterWhole
    let (power, rest) := Number.takeExponent afterFraction
    -- Without a point and a power of ten the number is an integer.
    if rest.length = afterWhole.length then
      match Number.ofFewDigits negative whole with
      | .ok n => .ok (.int n, rest)
      | .error _ => .error (.tooLong whole.length)
    else
      let x : Number.Scientific := ⟨whole ++ fraction, power - fraction.length⟩
      .ok (.float (x.toDouble negative), rest)

def words : List (List Char × Json) :=
  [("null".toList, .null), ("true".toList, .bool true), ("false".toList, .bool false),
   ("NaN".toList, .float .nan), ("Infinity".toList, .float (.infinite false)),
   ("-Infinity".toList, .float (.infinite true))]

def scalar (s : List Char) : Except Fault (Json × List Char) :=
  match words.find? fun w => w.1.isPrefixOf s with
  | some (word, value) => .ok (value, s.drop word.length)
  | none => number s

/-- How many lists and objects may be inside one another. -/
def maxDepth : Nat := 980

mutual

/-- A value at the start of a text, which may be `depth` lists and objects deep. -/
def readValue (fuel depth : Nat) (s : List Char) : Except Fault (Json × List Char) :=
  match fuel with
  | 0 => .error (.malformed "Expecting value" s)
  | fuel + 1 =>
    match s, depth with
    | '"' :: cs, _ => do
      let (text, rest) ← quoted cs
      pure (.ofPhrase (.ofCodePoints text), rest)
    | '[' :: _, 0 => .error (.tooDeep "array")
    | '[' :: cs, depth + 1 =>
      match skipBlanks cs with
      | ']' :: rest => .ok (.arr [], rest)
      | cs => do
        let (values, rest) ← readItems fuel depth cs
        pure (.arr values, rest)
    | '{' :: _, 0 => .error (.tooDeep "object")
    | '{' :: cs, depth + 1 =>
      match skipBlanks cs with
      | '}' :: rest => .ok (.obj [], rest)
      | cs => do
        let (fs, rest) ← readFields fuel depth [] cs
        pure (.obj fs, rest)
    | _, _ => scalar s

/-- The items of a list from the first one on, with the closing bracket. -/
def readItems (fuel depth : Nat) (s : List Char) : Except Fault (List Json × List Char) :=
  match fuel with
  | 0 => .error (.malformed "Expecting value" s)
  | fuel + 1 => do
    let (value, rest) ← readValue fuel depth s
    match skipBlanks rest with
    | ']' :: rest => pure ([value], rest)
    | ',' :: rest => do
      let (values, rest) ← readItems fuel depth (skipBlanks rest)
      pure (value :: values, rest)
    | rest => .error (.malformed "Expecting ',' delimiter" rest)

/-- The fields of an object from the next one on, with the closing brace. A name that comes again
gives its field a new value. -/
def readFields (fuel depth : Nat) (seen : List (String × Json)) (s : List Char) :
    Except Fault (List (String × Json) × List Char) :=
  match fuel with
  | 0 => .error (.malformed "Expecting property name enclosed in double quotes" s)
  | fuel + 1 =>
    match s with
    | '"' :: cs => do
      let (name, rest) ← quoted cs
      match skipBlanks rest with
      | ':' :: rest => do
        let (value, rest) ← readValue fuel depth (skipBlanks rest)
        let seen := Assoc.put (String.ofList (name.map Phrase.charOf)) value seen
        match skipBlanks rest with
        | '}' :: rest => pure (seen, rest)
        | ',' :: rest => readFields fuel depth seen (skipBlanks rest)
        | rest => .error (.malformed "Expecting ',' delimiter" rest)
      | rest => .error (.malformed "Expecting ':' delimiter" rest)
    | _ => .error (.malformed "Expecting property name enclosed in double quotes" s)

end

def parse (s : List Char) : Except Fault Json := do
  if s.head? = some '\uFEFF' then
    .error (.malformed "Unexpected UTF-8 BOM (decode using utf-8-sig)" s)
  let (value, rest) ← readValue (2 * s.length + 1) maxDepth (skipBlanks s)
  match skipBlanks rest with
  | [] => pure value
  | rest => .error (.malformed "Extra data" rest)

def parse? (s : List Char) : Option Json := (parse s).toOption

end TokenIssuer.Json
