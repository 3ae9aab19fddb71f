/-!
Base64. Two readers share one machine over the characters: the strict one allows nothing but the
alphabet and padding at the end, the lax one skips what is not in the alphabet. A third reader takes
the unpadded form in which stored hashes write their parts.
-/

namespace TokenIssuer.Base64

def symbol (n : Nat) : Char :=
  if n < 26 then Char.ofNat ('A'.toNat + n)
  else if n < 52 then Char.ofNat ('a'.toNat + (n - 26))
  else if n < 62 then Char.ofNat ('0'.toNat + (n - 52))
  else if n = 62 then '+' else '/'

def value? (c : Char) : Option Nat :=
  if 'A' ≤ c ∧ c ≤ 'Z' then some (c.toNat - 'A'.toNat)
  else if 'a' ≤ c ∧ c ≤ 'z' then some (c.toNat - 'a'.toNat + 26)
  else if '0' ≤ c ∧ c ≤ '9' then some (c.toNat - '0'.toNat + 52)
  else if c = '+' then some 62
  else if c = '/' then some 63
  else none

/-- Bytes without padding: three bytes as four characters, and at the end two bytes as three or one
byte as two. -/
def encode : List UInt8 → List Char
  | [] => []
  | [a] => [symbol (a.toNat / 4), symbol (a.toNat % 4 * 16)]
  | [a, b] =>
    [symbol (a.toNat / 4), symbol (a.toNat % 4 * 16 + b.toNat / 16), symbol (b.toNat % 16 * 4)]
  | a :: b :: c :: rest =>
    symbol (a.toNat / 4) :: symbol (a.toNat % 4 * 16 + b.toNat / 16) ::
      symbol (b.toNat % 16 * 4 + c.toNat / 64) :: symbol (c.toNat % 64) :: encode rest

/-- The bytes of an unpadded text; the bits left over at its end must be zero. -/
def decodeUnpadded? : List Char → Option (List UInt8)
  | [] => some []
  | [_] => none
  | [a, b] => do
    let x ← value? a
    let y ← value? b
    if y % 16 = 0 then some [UInt8.ofNat (x * 4 + y / 16)] else none
  | [a, b, c] => do
    let x ← value? a
    let y ← value? b
    let z ← value? c
    if z % 4 = 0 then
      some [UInt8.ofNat (x * 4 + y / 16), UInt8.ofNat (y % 16 * 16 + z / 4)]
    else none
  | a :: b :: c :: d :: rest => do
    let x ← value? a
    let y ← value? b
    let z ← value? c
    let w ← value? d
    let bytes ← decodeUnpadded? rest
    some (UInt8.ofNat (x * 4 + y / 16) :: UInt8.ofNat (y % 16 * 16 + z / 4) ::
      UInt8.ofNat (z % 4 * 64 + w) :: bytes)

inductive Fault where
  /-- A character, or a place of the padding, that the strict reader does not allow. -/
  | notAllowed
  /-- The data end after a single character of a group of four; `count` is the number of characters
  in question. -/
  | loneCharacter (count : Nat)
  | padding
  deriving DecidableEq, Repr

def Fault.message : Fault → String
  | .notAllowed => "Only base64 data is allowed"
  | .loneCharacter count =>
    s!"Invalid base64-encoded string: number of data characters ({count}) cannot be 1 more " ++
      "than a multiple of 4"
  | .padding => "Incorrect padding"

structure State where
  /-- How many characters of the current group of four were read. -/
  quad : Nat
  left : Nat
  /-- How many padding characters came since the last one of the alphabet. -/
  pads : Nat
  padded : Bool
  written : Nat

def State.initial : State := ⟨0, 0, 0, false, 0⟩

/-- The byte a character of value `v` completes, if it completes one, and the state after it. -/
def State.accept (s : State) (v : Nat) : Option UInt8 × State :=
  match s.quad with
  | 0 => (none, { s with quad := 1, left := v, pads := 0 })
  | 1 =>
    (some (UInt8.ofNat (s.left * 4 + v / 16)),
      { s with quad := 2, left := v % 16, pads := 0, written := s.written + 1 })
  | 2 =>
    (some (UInt8.ofNat (s.left * 16 + v / 4)),
      { s with quad := 3, left := v % 4, pads := 0, written := s.written + 1 })
  | _ =>
    (some (UInt8.ofNat (s.left * 64 + v)),
      { s with quad := 0, left := 0, pads := 0, written := s.written + 1 })

/-- The bytes of a text from the state on. Padding that fills up a group ends the data; padding
elsewhere is passed over. -/
def read (strict : Bool) : State → List Char → Except Fault (List UInt8)
  | s, [] =>
    if s.quad = 0 then .ok []
    else if s.quad = 1 then .error (.loneCharacter (s.written / 3 * 4 + 1))
    else .error .padding
  | s, c :: cs =>
    if c = '=' then
      if 2 ≤ s.quad then
        if 4 ≤ s.quad + s.pads + 1 then
          if strict && !cs.isEmpty then .error .notAllowed else .ok []
        else read strict { s with padded := true, pads := s.pads + 1 } cs
      else read strict { s with padded := true } cs
    else
      match value? c with
      | none => if strict then .error .notAllowed else read strict s cs
      | some v =>
        if strict && s.padded then .error .notAllowed
        else
          match s.accept v with
          | (some byte, s) => (byte :: ·) <$> read strict s cs
          | (none, s) => read strict s cs

/-- The bytes of a text of which every character counts. -/
def decodeStrict? (s : List Char) : Option (List UInt8) :=
  if s.head? = some '=' then none else (read true .initial s).toOption

/-- The bytes of a text in which characters outside the alphabet are skipped. -/
def decodeLax (s : List Char) : Except Fault (List UInt8) := read false .initial s

end TokenIssuer.Base64
