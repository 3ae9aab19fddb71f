/-!
Double-precision numbers, kept as what they stand for: a sign, a mantissa and a power of two. The
operations are those of exact arithmetic followed by one rounding, so that every number shown in a
log, a metric or a report is a value one can compute with.
-/

namespace TokenIssuer

/-- A double-precision number. A finite one is `mantissa * 2 ^ exponent`, with a mantissa below
`2 ^ 53` and an exponent of at least `-1074`; zero keeps its sign. -/
inductive Double where
  | nan
  | infinite (negative : Bool)
  | finite (negative : Bool) (mantissa : Nat) (exponent : Int)
  deriving DecidableEq, Repr, Inhabited

namespace Double

def signedZero (negative : Bool) : Double := .finite negative 0 (-1074)

def zero : Double := signedZero false

/-- `num / den / 2 ^ e` as a fraction of natural numbers. -/
def scaled (num den : Nat) (e : Int) : Nat × Nat :=
  if 0 ≤ e then (num, den * Nat.pow 2 e.toNat) else (num * Nat.pow 2 (-e).toNat, den)

/-- The natural number nearest to `num / den`, the even one of two. -/
def divRound (num den : Nat) : Nat :=
  let q := num / den
  let r := num % den
  if 2 * r > den ∨ (2 * r = den ∧ q % 2 = 1) then q + 1 else q

/-- The power of two that leaves fifty-three bits of `num / den` before the point, or the least
one there is. -/
def exponentFor (num den : Nat) : Int :=
  let e : Int := max (-1074) ((num.log2 : Int) - den.log2 - 53)
  let (n, d) := scaled num den e
  if n / d ≥ 0x20000000000000 then e + 1 else e

/-- The double nearest to `num / den` with the sign given. -/
def ofRatio (negative : Bool) (num den : Nat) : Double :=
  if num = 0 then signedZero negative
  else
    let e := exponentFor num den
    let (n, d) := scaled num den e
    let m := divRound n d
    -- Rounding up may carry into a fifty-fourth bit.
    let (m, e) := if m ≥ 0x20000000000000 then (0x10000000000000, e + 1) else (m, e)
    if e > 971 then .infinite negative
    else if m = 0 then signedZero negative
    else .finite negative m e

/-- The double nearest to a rational number; zero is positive. -/
def ofRat (r : Rat) : Double := ofRatio (decide (r.num < 0)) r.num.natAbs r.den

def ofInt (i : Int) : Double := ofRatio (decide (i < 0)) i.natAbs 1

/-- The absolute value of a finite number as a fraction. -/
def magnitude (mantissa : Nat) (exponent : Int) : Nat × Nat :=
  scaled mantissa 1 (-exponent)

def toRat? : Double → Option Rat
  | .finite negative m e =>
    let (n, d) := magnitude m e
    some (mkRat (if negative then -(n : Int) else n) d)
  | _ => none

/-- The number is below zero, or is the negative zero or infinity. -/
def isNegative : Double → Bool
  | .nan => false
  | .infinite negative => negative
  | .finite negative _ _ => negative

def isZero : Double → Bool
  | .finite _ m _ => m == 0
  | _ => false

def isFinite : Double → Bool
  | .finite .. => true
  | _ => false

def add (a b : Double) : Double :=
  match a, b with
  | .nan, _ => .nan
  | _, .nan => .nan
  | .infinite s, .infinite t => if s = t then .infinite s else .nan
  | .infinite s, .finite .. => .infinite s
  | .finite .., .infinite t => .infinite t
  | .finite s .., .finite t .. =>
    match a.toRat?, b.toRat? with
    | some x, some y => if x + y = 0 then signedZero (s && t) else ofRat (x + y)
    | _, _ => .nan

/-- The product; that of an infinity and a zero is no number. -/
def mul (a b : Double) : Double :=
  let negative := xor a.isNegative b.isNegative
  match a, b with
  | .nan, _ => .nan
  | _, .nan => .nan
  | .infinite _, b => if b.isZero then .nan else .infinite negative
  | a, .infinite _ => if a.isZero then .nan else .infinite negative
  | .finite .., .finite .. =>
    match a.toRat?, b.toRat? with
    | some x, some y => ofRatio negative (x * y).num.natAbs (x * y).den
    | _, _ => .nan

/-- The quotient by a number other than zero. -/
def div (a b : Double) : Double :=
  let negative := xor a.isNegative b.isNegative
  match a, b with
  | .nan, _ => .nan
  | _, .nan => .nan
  | .infinite _, .infinite _ => .nan
  | .infinite _, _ => .infinite negative
  | _, .infinite _ => signedZero negative
  | .finite .., .finite .. =>
    match a.toRat?, b.toRat? with
    | some x, some y => ofRatio negative (x / y).num.natAbs (x / y).den
    | _, _ => .nan

/-- Whether the first number is at most the second; nothing compares with what is no number. -/
def le (a b : Double) : Bool :=
  match a, b with
  | .nan, _ => false
  | _, .nan => false
  | .infinite s, .infinite t => s || !t
  | .infinite s, .finite .. => s
  | .finite .., .infinite t => !t
  | .finite .., .finite .. =>
    match a.toRat?, b.toRat? with
    | some x, some y => decide (x ≤ y)
    | _, _ => false

/-- The integer part of a finite number, towards zero. -/
def truncate? (a : Double) : Option Int :=
  a.toRat?.map fun r => Int.tdiv r.num r.den

/-- The integer a finite number is, if it is one. -/
def toInt? (a : Double) : Option Int :=
  a.toRat?.bind fun r => if r.den = 1 then some r.num else none

end Double

end TokenIssuer
