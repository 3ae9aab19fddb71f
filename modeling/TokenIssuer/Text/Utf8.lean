import TokenIssuer.Text.Digit

/-!
UTF-8. Decoding runs over the bytes once and marks each ill-formed piece, the longest start of a
character that does not go on (a maximal subpart), where it stands; the strict reader refuses a
marked text and the lossy one writes U+FFFD for each mark.
-/

namespace TokenIssuer.Utf8

def encode (s : List Char) : List UInt8 := s.flatMap String.utf8EncodeChar

/-- A character under way: the bits so far, the bytes still owed, and the range of the next one. -/
structure Pending where
  value : Nat
  /-- How many bytes are still to come, at least one. -/
  owed : Nat
  low : UInt8
  high : UInt8
  deriving DecidableEq, Repr

/-- What a byte between characters begins. -/
inductive Lead where
  | char (c : Char)
  | more (p : Pending)
  | bad

/-- What `b` begins. The range of the second byte excludes overlong forms, surrogates and what
lies past U+10FFFF. -/
def lead (b : UInt8) : Lead :=
  if b < 0x80 then .char (Char.ofNat b.toNat)
  else if b < 0xC2 then .bad
  else if b < 0xE0 then .more ⟨b.toNat - 0xC0, 1, 0x80, 0xBF⟩
  else if b = 0xE0 then .more ⟨0, 2, 0xA0, 0xBF⟩
  else if b = 0xED then .more ⟨0xD, 2, 0x80, 0x9F⟩
  else if b < 0xF0 then .more ⟨b.toNat - 0xE0, 2, 0x80, 0xBF⟩
  else if b = 0xF0 then .more ⟨0, 3, 0x90, 0xBF⟩
  else if b < 0xF4 then .more ⟨b.toNat - 0xF0, 3, 0x80, 0xBF⟩
  else if b = 0xF4 then .more ⟨4, 3, 0x80, 0x8F⟩
  else .bad

/-- The characters of a byte string, `none` for each ill-formed piece, with a character possibly
under way at the start. -/
def decodeFrom : Option Pending → List UInt8 → List (Option Char)
  | none, [] => []
  | some _, [] => [none]
  | none, b :: bs =>
    match lead b with
    | .char c => some c :: decodeFrom none bs
    | .more p => decodeFrom (some p) bs
    | .bad => none :: decodeFrom none bs
  | some p, b :: bs =>
    if p.low ≤ b ∧ b ≤ p.high then
      let value := p.value * 64 + b.toNat % 64
      if p.owed ≤ 1 then some (Char.ofNat value) :: decodeFrom none bs
      else decodeFrom (some ⟨value, p.owed - 1, 0x80, 0xBF⟩) bs
    else
      none ::
        match lead b with
        | .char c => some c :: decodeFrom none bs
        | .more p => decodeFrom (some p) bs
        | .bad => none :: decodeFrom none bs

/-- The characters of a byte string, `none` for each ill-formed piece. -/
def pieces (bs : List UInt8) : List (Option Char) := decodeFrom none bs

/-- The text of a byte string, if all of it is well formed. -/
def decode? (bs : List UInt8) : Option (List Char) := (pieces bs).mapM id

/-- The text of a byte string, with U+FFFD for each ill-formed piece. -/
def decodeLossy (bs : List UInt8) : List Char := (pieces bs).map (·.getD '\uFFFD')

inductive Reason where
  | start
  | continuation
  | truncated
  deriving DecidableEq, Repr

/-- The first ill-formed piece of a byte string. -/
structure Fault where
  first : Nat
  bytes : List UInt8
  reason : Reason
  deriving DecidableEq, Repr

/-- The first ill-formed piece from the byte number `pos` on, with a character possibly under way of
which the bytes `seen` were read. -/
def faultFrom (pos : Nat) (seen : List UInt8) : Option Pending → List UInt8 → Option Fault
  | none, [] => none
  | some _, [] => some ⟨pos - seen.length, seen, .truncated⟩
  | none, b :: bs =>
    match lead b with
    | .char _ => faultFrom (pos + 1) [] none bs
    | .more p => faultFrom (pos + 1) [b] (some p) bs
    | .bad => some ⟨pos, [b], .start⟩
  | some p, b :: bs =>
    if p.low ≤ b ∧ b ≤ p.high then
      if p.owed ≤ 1 then faultFrom (pos + 1) [] none bs
      else
        faultFrom (pos + 1) (seen ++ [b])
          (some ⟨p.value * 64 + b.toNat % 64, p.owed - 1, 0x80, 0xBF⟩) bs
    else some ⟨pos - seen.length, seen, .continuation⟩

def fault? (bs : List UInt8) : Option Fault := faultFrom 0 [] none bs

def Reason.text : Reason → String
  | .start => "invalid start byte"
  | .continuation => "invalid continuation byte"
  | .truncated => "unexpected end of data"

def Fault.message (f : Fault) : String :=
  let place :=
    match f.bytes with
    | [b] => s!"byte 0x{String.ofList (Text.hexByte b)} in position {f.first}"
    | bs => s!"bytes in position {f.first}-{f.first + bs.length - 1}"
  s!"'utf-8' codec can't decode {place}: {f.reason.text}"

end TokenIssuer.Utf8
