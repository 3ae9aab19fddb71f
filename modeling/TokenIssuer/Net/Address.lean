import TokenIssuer.Text.Cut
import TokenIssuer.Text.Digit
import TokenIssuer.Number.Read

/-!
Internet addresses of both versions and their canonical text: no leading zeros, lower-case digits,
and the longest run of zero groups written as `::`.
-/

namespace TokenIssuer.Net

open Text

inductive Address where
  | v4 (a b c d : UInt8)
  /-- Eight groups of sixteen bits, and the zone it belongs to. -/
  | v6 (groups : List UInt16) (zone : Option (List Char))
  deriving DecidableEq, Repr

namespace Address

/-- One byte in decimal: one to three ASCII digits, with no zero in front. -/
def readOctet? (s : List Char) : Option UInt8 := do
  let digits ← s.mapM Number.decimalValue?
  if digits.isEmpty || 3 < digits.length || (1 < digits.length && digits.head? == some 0) then none
  else
    let n := Number.ofDigits 10 digits
    if n < 256 then some (UInt8.ofNat n) else none

def readV4? (s : List Char) : Option (UInt8 × UInt8 × UInt8 × UInt8) :=
  match splitOn '.' s with
  | [a, b, c, d] => do
    pure (← readOctet? a, ← readOctet? b, ← readOctet? c, ← readOctet? d)
  | _ => none

def readGroup? (s : List Char) : Option UInt16 := do
  let digits ← s.mapM hexValue?
  if digits.isEmpty || 4 < digits.length then none
  else some (UInt16.ofNat (Number.ofDigits 16 digits))

/-- The groups of the pieces, the last of which may be the dotted form of two groups. -/
def readGroups? (pieces : List (List Char)) : Option (List UInt16) :=
  match pieces.reverse with
  | [] => some []
  | last :: front =>
    if last.contains '.' then do
      let (a, b, c, d) ← readV4? last
      let groups ← front.reverse.mapM readGroup?
      pure (groups ++
        [UInt16.ofNat (a.toNat * 256 + b.toNat), UInt16.ofNat (c.toNat * 256 + d.toNat)])
    else pieces.mapM readGroup?

/-- The pieces on the two sides of the first empty piece that stands between others. -/
def splitAtGap : List (List Char) → Option (List (List Char) × List (List Char))
  | [] => none
  | p :: ps => go [p] ps
where
  /-- Goes on after the pieces `front`, of which there is at least one. -/
  go (front : List (List Char)) : List (List Char) → Option (List (List Char) × List (List Char))
    | [] => none
    | [_] => none
    | p :: q :: ps => if p.isEmpty then some (front, q :: ps) else go (front ++ [p]) (q :: ps)

/-- Eight groups; one run of zero groups may be left out between two colons. A text that starts or
ends with these colons has an empty piece more on that side. -/
def readV6Groups? (s : List Char) : Option (List UInt16) :=
  let pieces := splitOn ':' s
  if pieces.length < 3 then none
  else
    match splitAtGap pieces with
    | none => do
      let groups ← readGroups? pieces
      if groups.length = 8 then some groups else none
    | some (front, back) => do
      let high ← if front = [[]] then some [] else readGroups? front
      let low ← if back = [[]] then some [] else readGroups? back
      if front.any (·.contains '.') then none
      else if high.length + low.length < 8 then
        some (high ++ List.replicate (8 - high.length - low.length) 0 ++ low)
      else none

/-- Eight groups and possibly a zone after a percent sign. -/
def readV6? (s : List Char) : Option Address :=
  match cut '%' s with
  | (groups, none) => (readV6Groups? groups).map (.v6 · none)
  | (groups, some zone) =>
    if zone.isEmpty || zone.contains '%' then none
    else (readV6Groups? groups).map (.v6 · (some zone))

def read? (s : List Char) : Option Address :=
  if s.contains '/' then none
  else
    match readV4? s with
    | some (a, b, c, d) => some (.v4 a b c d)
    | none => readV6? s

def groupChars (g : UInt16) : List Char :=
  match (hexDigits 4 g.toNat).dropWhile (· == '0') with
  | [] => ['0']
  | digits => digits

/-- How many groups at the start are zero. -/
def zeroRun (groups : List UInt16) : Nat := (groups.takeWhile (· == 0)).length

/-- The place and the length of the longest run of zero groups, the first of equal ones. -/
def longestZeros : List UInt16 → Nat × Nat
  | [] => (0, 0)
  | g :: gs =>
    let here := zeroRun (g :: gs)
    let (place, size) := longestZeros gs
    if here ≥ size then (0, here) else (place + 1, size)

/-- The groups in hexadecimal between colons, the longest run of at least two zeros left out. -/
def groupsChars (groups : List UInt16) : List Char :=
  let (place, size) := longestZeros groups
  if size < 2 then join [':'] (groups.map groupChars)
  else
    join [':'] ((groups.take place).map groupChars) ++ ':' :: ':' ::
      join [':'] ((groups.drop (place + size)).map groupChars)

def chars : Address → List Char
  | .v4 a b c d => join ['.'] ([a, b, c, d].map fun x => Nat.toDigits 10 x.toNat)
  | .v6 groups zone =>
    groupsChars groups ++
      match zone with
      | none => []
      | some z => '%' :: z

end Address

/-- The canonical text of the address a text stands for, blanks around it aside. -/
def canonical? (s : String) : Option String :=
  (Address.read? (trim s.toList)).map fun a => String.ofList a.chars

end TokenIssuer.Net
