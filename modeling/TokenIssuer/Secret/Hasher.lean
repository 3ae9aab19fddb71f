import TokenIssuer.Secret.StoredHash
import TokenIssuer.Text.Utf8

/-!
Hashing of client secrets, and checking a presented secret against a hash on file. What is on file
may be anything; most of what is no hash just does not match, but a few texts that look like one
make the check itself fail. There is always enough memory for a hash whose costs are in limits.
-/

namespace TokenIssuer.Secret

open Crypto

inductive Presented where
  | text (s : String)
  | bytes (bs : List UInt8)

namespace Presented

def toBytes : Presented → List UInt8
  | .text s => Utf8.encode s.toList
  | .bytes bs => bs

/-- The size of a secret, in characters or in bytes. -/
def size : Presented → Nat
  | .text s => s.toList.length
  | .bytes bs => bs.length

def maxSize : Nat := 4096

def fits (p : Presented) : Bool := p.size ≤ maxSize

end Presented

/-- Why a secret is not hashed, or a check fails without an answer. -/
inductive Fault where
  | size
  /-- The salt is too short. -/
  | salt
  | encoding (fault : Base64.Fault)
  | noSalt
  | keyId
  | data
  deriving DecidableEq, Repr

def Fault.message : Fault → String
  | .size => "password exceeds maximum allowed size"
  | .salt => "malformed argon2 hash (argon2_cffi reported: Salt is too short: hash=None)"
  | .encoding fault => fault.message
  | .noSalt => "no salt specified"
  | .keyId => "argon2 'keyid' parameter not supported"
  | .data => "argon2_cffi backend doesn't support the 'data' parameter"

/-- The text starts like a hash of this kind: its name with small letters after it, between dollar
signs. -/
def looksLikeHash (s : List Char) : Bool :=
  match after? "$argon2" s with
  | none => false
  | some rest =>
    match rest.span fun c => 'a' ≤ c ∧ c ≤ 'z' with
    | (_ :: _, '$' :: _) => true
    | _ => false

/-- The bytes of a part written in Base64 without padding. `none` tells that the length alone rules
the part out. -/
def readPart (part : Option (List Char)) : Except Fault (Option (Option (List UInt8))) :=
  match part with
  | none => .ok (some none)
  | some s =>
    let padded? : Option (List Char) :=
      match s.length % 4 with
      | 0 => some s
      | 1 => none
      | r => some (s ++ List.replicate (4 - r) '=')
    match padded? with
    | none => .ok none
    | some padded =>
      match Base64.decodeLax padded with
      | .ok bytes => .ok (some (some bytes))
      | .error fault => .error (.encoding fault)

/-- The numbers of a hash with the name of its variant are in range. -/
def numbersInRange (variant : Option Argon2.Variant) (numbers : List Nat) : Bool :=
  let (version, costs) :=
    match numbers with
    | [m, t, p] => (16, (m, t, p))
    | [v, m, t, p] => (v, (m, t, p))
    | _ => (0, (0, 0, 0))
  variant.isSome && (version == 16 || version == 19) && 8 ≤ costs.1 && 8 * costs.2.2 ≤ costs.1 &&
    1 ≤ costs.2.1 && costs.2.1 < 0x100000000 && 1 ≤ costs.2.2

/-- What becomes of a check against a text that is no well-formed hash: it fails on some parts, and
otherwise does not match. -/
def checkLayout (s : List Char) : Except Fault Bool :=
  match Layout.read? s with
  | none => .ok false
  | some layout =>
    if layout.keyId then .error .keyId
    else if layout.numbers.any fun digits => Number.maxDigits < digits.length then .ok false
    else do
      match ← readPart layout.salt with
      | none => pure false
      | some salt =>
        match ← readPart layout.data with
        | none => pure false
        | some data =>
          match ← readPart layout.tag with
          | none => pure false
          | some _ =>
            -- All parts can be decoded; what counts now is whether the hash could ever be made.
            match salt with
            | none => .error .noSalt
            | some salt =>
              let name := ((s.drop 1).span (· ≠ '$')).1
              if salt.length < 8 ∨ !numbersInRange (variant? name) (layout.numbers.map Layout.value)
              then pure false
              else if data.isSome then .error .data
              else pure false

/-- Checks a secret against what is on file. A text with a character outside ASCII is no hash, and
one that goes on after a character of code zero is read up to it. -/
def verify (presented : Presented) (stored : String) : Except Fault Bool :=
  let s := stored.toList
  if !looksLikeHash s || !presented.fits || s.any (fun c => 0x80 ≤ c.toNat) then .ok false
  else
    match Encoded.read? (s.takeWhile (· ≠ '\x00')) with
    | some encoded => .ok (encoded.accepts presented.toBytes)
    | none => checkLayout s

/-- The parameters of a hash that is made now. -/
def parametersOf (passes memory lanes : Nat) : Argon2.Parameters :=
  { variant := .hybrid, version := 19, passes, memory, lanes }

/-- What hashing a secret costs. -/
structure Hasher where
  passes : Nat
  memory : Nat
  lanes : Nat
  inLimits : (parametersOf passes memory lanes).inLimits
  deriving DecidableEq, Repr

/-- Why there are no hashes at some costs. -/
inductive CostFault where
  /-- The lanes have less than eight blocks each. -/
  | lowMemory (memory lanes : Nat)
  /-- The memory is no word of 32 bits. -/
  | highMemory (memory : Nat)
  | highLanes
  deriving DecidableEq, Repr

def CostFault.message : CostFault → String
  | .lowMemory memory lanes =>
    s!"argon2: memory_cost ({memory}) is too low, must be at least 8 * parallelism " ++
      s!"(8 * {lanes} = {8 * lanes})"
  | .highMemory memory =>
    if memory < 0x10000000000000000 then s!"integer {memory} does not fit '32-bit unsigned int'"
    else "int too big to convert"
  | .highLanes => "malformed argon2 hash (argon2_cffi reported: Too many lanes: hash=None)"

namespace Hasher

/-- The hasher of the costs, each raised to the least one there is, and the passes lowered to the
most there are. -/
def make (passes memory lanes : Int) : Except CostFault Hasher :=
  let passes := min 0xFFFFFFFF (max 1 passes.toNat)
  let memory := max 8 memory.toNat
  let lanes := max 1 lanes.toNat
  if memory < 8 * lanes then .error (.lowMemory memory lanes)
  -- What is too high would come up with the first hash only; no hasher is made of it.
  else if 0x100000000 ≤ memory then .error (.highMemory memory)
  else if inLimits : (parametersOf passes memory lanes).inLimits then
    .ok { passes, memory, lanes, inLimits }
  else .error .highLanes

def tagSize : Nat := 32

/-- The hash of a secret with the salt, before it is written down. -/
def encode (h : Hasher) (salt : List UInt8) (secret : Presented) : Encoded :=
  let parameters := parametersOf h.passes h.memory h.lanes
  { parameters, salt, tag := Argon2.hash parameters tagSize secret.toBytes salt }

def hash (h : Hasher) (salt : List UInt8) (secret : Presented) : Except Fault String :=
  if !secret.fits then .error .size
  else if salt.length < Argon2.minSalt then .error .salt
  else .ok (h.encode salt secret).text

end Hasher

end TokenIssuer.Secret
