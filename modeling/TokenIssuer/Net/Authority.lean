import TokenIssuer.Net.Address

/-!
Authorities: the name of a server, or its address between brackets, and a port after a colon.
-/

namespace TokenIssuer.Net

open Text

/-- A character that may stand in an address between brackets. -/
def isAddressChar (c : Char) : Bool := c.isAlphanum || "-._~!$&'()*+,;=".toList.contains c

/-- A character that may stand in the name of a server. What follows a percent sign is not looked
at. -/
def isNameChar (c : Char) : Bool := isAddressChar c || c = '%'

/-- What may stand between brackets: an address of version six without a zone, or one of a version
to come, which is named by a `v` and hexadecimal digits. -/
def isBracketed (s : List Char) : Bool :=
  match s with
  | 'v' :: cs =>
    match cut '.' cs with
    | (version, some address) =>
      !version.isEmpty && version.all (fun c => (hexValue? c).isSome) && !address.isEmpty &&
        address.all fun c => isAddressChar c || c = ':'
    | _ => false
  | _ => (Address.readV6Groups? s).isSome

/-- Nothing, or a colon and a port. -/
def isPortPart : List Char → Bool
  | [] => true
  | ':' :: port =>
    match port.mapM Number.decimalValue? with
    | none => false
    | some digits => !digits.isEmpty && Number.ofDigits 10 digits < 0x10000
  | _ => false

def isAuthority (s : List Char) : Bool :=
  match s with
  | '[' :: cs =>
    match cut ']' cs with
    | (address, some port) => isBracketed address && isPortPart port
    | _ => false
  | _ =>
    let (name, port) := s.span (· ≠ ':')
    !name.isEmpty && name.all isNameChar && isPortPart port

end TokenIssuer.Net
