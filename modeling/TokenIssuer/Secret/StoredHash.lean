import TokenIssuer.Crypto.Argon2
import TokenIssuer.Encoding.Base64
import TokenIssuer.Number.Read

/-!
The text form of a hash: the variant, the version, the costs, the salt and the tag, each after a
dollar sign. A well-formed text is read as an `Encoded`; what else is on file is looked at part by
part as a `Layout`, since some parts make a check fail rather than not match.
-/

namespace TokenIssuer.Secret

open Crypto

def after? (literal : String) (s : List Char) : Option (List Char) :=
  if literal.toList.isPrefixOf s then some (s.drop literal.length) else none

def variant? (name : List Char) : Option Argon2.Variant :=
  match String.ofList name with
  | "argon2d" => some .dependent
  | "argon2i" => some .independent
  | "argon2id" => some .hybrid
  | _ => none

def variantName : Argon2.Variant → String
  | .dependent => "argon2d"
  | .independent => "argon2i"
  | .hybrid => "argon2id"

/-- A decimal number of at most thirty-two bits without zeros in front, and what follows it. -/
def takeWord? (s : List Char) : Option (Nat × List Char) :=
  match Number.takeDigits s with
  | ([], _) => none
  | (0 :: _ :: _, _) => none
  | (digits, rest) =>
    let n := Number.ofDigits 10 digits
    if n < 0x100000000 then some (n, rest) else none

/-- The characters of Base64 at the start of a text, and what follows them. -/
def takeBase64 (s : List Char) : List Char × List Char :=
  s.span fun c => (Base64.value? c).isSome

structure Encoded where
  parameters : Argon2.Parameters
  salt : List UInt8
  tag : List UInt8
  deriving DecidableEq, Repr

namespace Encoded

/-- There is a tag of this size at the costs and with the salt. -/
def inRange (e : Encoded) : Bool :=
  4 ≤ e.tag.length && Argon2.minSalt ≤ e.salt.length && e.parameters.inLimits

/-- Reads a well-formed hash. Nothing may follow the tag. -/
def read? (s : List Char) : Option Encoded := do
  let (name, rest) := (← after? "$" s).span (· ≠ '$')
  let variant ← variant? name
  let (version, rest) ←
    match after? "$v=" rest with
    | some rest => takeWord? rest
    | none => some (16, rest)
  let (memory, rest) ← takeWord? (← after? "$m=" rest)
  let (passes, rest) ← takeWord? (← after? ",t=" rest)
  let (lanes, rest) ← takeWord? (← after? ",p=" rest)
  let (salt, rest) := takeBase64 (← after? "$" rest)
  let (tag, rest) := takeBase64 (← after? "$" rest)
  let encoded : Encoded :=
    { parameters := { variant, version, passes, memory, lanes }
      salt := ← Base64.decodeUnpadded? salt
      tag := ← Base64.decodeUnpadded? tag }
  if rest.isEmpty && encoded.inRange then some encoded else none

def costs (p : Argon2.Parameters) : String :=
  s!"${variantName p.variant}$v={p.version}$m={p.memory},t={p.passes},p={p.lanes}"

def text (e : Encoded) : String :=
  costs e.parameters ++ "$" ++ String.ofList (Base64.encode e.salt) ++ "$" ++
    String.ofList (Base64.encode e.tag)

/-- The tag is the one of the secret. -/
def accepts (e : Encoded) (secret : List UInt8) : Bool :=
  Argon2.hash e.parameters e.tag.length secret e.salt == e.tag

end Encoded

/-- The parts of a text that looks like a hash, as they are written. -/
structure Layout where
  /-- The version, the memory, the passes and the lanes, those that are there. -/
  numbers : List (List Char)
  keyId : Bool
  /-- The salt, associated data and the tag, those that are there. -/
  salt : Option (List Char)
  data : Option (List Char)
  tag : Option (List Char)

namespace Layout

/-- The decimal digits at the start of a text, of which there is at least one. -/
def takeNumber? (s : List Char) : Option (List Char × List Char) :=
  match s.span fun c => (Number.decimalValue? c).isSome with
  | ([], _) => none
  | taken => some taken

/-- An optional part after a mark: everything up to a comma or a dollar sign. -/
def takePart? (mark : String) (s : List Char) : Option (Option (List Char) × List Char) :=
  match after? mark s with
  | none => some (none, s)
  | some rest =>
    match rest.span fun c => c ≠ ',' ∧ c ≠ '$' with
    | ([], _) => none
    | (part, rest) => some (some part, rest)

/-- The tag: the rest of the text, which is one line. -/
def tag? (s : List Char) : Option (List Char) :=
  let line := if s.getLast? = some '\n' then s.dropLast else s
  if line.isEmpty || line.contains '\n' then none else some line

/-- The salt and the tag at the end of a text. -/
def takeEnd? (s : List Char) : Option (Option (List Char) × Option (List Char)) :=
  match s with
  | [] => some (none, none)
  | ['\n'] => some (none, none)
  | '$' :: cs =>
    match cs.span (· ≠ '$') with
    | ([], _) => none
    | (salt, []) => some (some salt, none)
    | (salt, _ :: cs) => (tag? cs).map fun tag => (some salt, some tag)
  | _ => none

/-- Reads the parts of a text after the name of its variant. -/
def read? (s : List Char) : Option Layout := do
  let (name, rest) := (← after? "$argon2" s).span fun c => 'a' ≤ c ∧ c ≤ 'z'
  let rest ← if name.isEmpty then none else after? "$" rest
  let (version, rest) ←
    match after? "v=" rest with
    | none => some ([], rest)
    | some rest => do
      let (digits, rest) ← takeNumber? rest
      pure ([digits], ← after? "$" rest)
  let (memory, rest) ← takeNumber? (← after? "m=" rest)
  let (passes, rest) ← takeNumber? (← after? ",t=" rest)
  let (lanes, rest) ← takeNumber? (← after? ",p=" rest)
  let (keyId, rest) ← takePart? ",keyid=" rest
  let (data, rest) ← takePart? ",data=" rest
  let (salt, tag) ← takeEnd? rest
  pure { numbers := version ++ [memory, passes, lanes], keyId := keyId.isSome, salt, data, tag }

def value (digits : List Char) : Nat :=
  Number.ofDigits 10 (digits.filterMap Number.decimalValue?)

end Layout

end TokenIssuer.Secret
