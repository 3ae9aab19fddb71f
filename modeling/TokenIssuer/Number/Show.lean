import TokenIssuer.Number.Double

/-!
Doubles as text: the shortest digits that are read back as the same number, and a fixed number of
digits after the point.
-/

namespace TokenIssuer.Number

def belowPower (num den : Nat) (k : Int) : Bool :=
  if 0 ≤ k then num < den * Nat.pow 10 k.toNat else num * Nat.pow 10 (-k).toNat < den

/-- The least power of ten above `num / den`, searched upwards from `k`. -/
def powerAbove (num den : Nat) : (fuel : Nat) → Int → Int
  | 0, k => k
  | fuel + 1, k => if belowPower num den k then k else powerAbove num den fuel (k + 1)

/-- The least power of ten above `num / den`. The search starts from a bound taken from the sizes
in bits, at most two powers below. -/
def decimalPoint (num den : Nat) : Int :=
  powerAbove num den 4 (((num.log2 : Int) - den.log2 - 1) * 30103 / 100000)

def ofDecimal (negative : Bool) (digits : Nat) (exponent : Int) : Double :=
  if 0 ≤ exponent then .ofRatio negative (digits * Nat.pow 10 exponent.toNat) 1
  else .ofRatio negative digits (Nat.pow 10 (-exponent).toNat)

/-- The two numbers of `width` digits around `num / den`, each with the power of ten of its last
digit, the nearer one first. -/
def neighbours (num den width : Nat) (point : Int) : List (Nat × Int) :=
  let e := point - width
  let (n, d) :=
    if 0 ≤ e then (num, den * Nat.pow 10 e.toNat) else (num * Nat.pow 10 (-e).toNat, den)
  let low := n / d
  -- Of the two the nearer one is tried first, so that it wins when both are read back.
  let near := Double.divRound n d
  if near = low then [(low, e), (low + 1, e)] else [(low + 1, e), (low, e)]

/-- The shortest decimal number that is read as `x`, whose absolute value is `num / den`, trying
widths from `width` on. Seventeen digits always suffice. -/
def searchShortest (x : Double) (num den : Nat) (point : Int) :
    (fuel : Nat) → (width : Nat) → Option (Nat × Int)
  | 0, _ => none
  | fuel + 1, width =>
    match (neighbours num den width point).find? fun c =>
        ofDecimal x.isNegative c.1 c.2 == x with
    | some c => some c
    | none => searchShortest x num den point fuel (width + 1)

def dropZeros (digits : List Char) : List Char := (digits.reverse.dropWhile (· == '0')).reverse

/-- Digits with the point after the first `point` of them, or with a power of ten when the number
is large or small. -/
def layOut (digits : List Char) (point : Int) : List Char :=
  if -4 < point ∧ point ≤ 16 then
    if point ≤ 0 then "0.".toList ++ List.replicate (-point).toNat '0' ++ digits
    else if digits.length ≤ point.toNat then
      digits ++ List.replicate (point.toNat - digits.length) '0' ++ ".0".toList
    else digits.take point.toNat ++ '.' :: digits.drop point.toNat
  else
    let power := point - 1
    let size := Nat.toDigits 10 power.natAbs
    let mantissa :=
      match digits with
      | [] => []
      | [d] => [d]
      | d :: ds => d :: '.' :: ds
    mantissa ++ 'e' :: (if power < 0 then '-' else '+') ::
      (if size.length < 2 then '0' :: size else size)

/-- A double as the shortest text that is read back as the same number. -/
def shortest (x : Double) : String :=
  match x with
  | .nan => "nan"
  | .infinite negative => if negative then "-inf" else "inf"
  | .finite negative m e =>
    let body :=
      if m = 0 then "0.0".toList
      else
        let (num, den) := Double.magnitude m e
        match searchShortest x num den (decimalPoint num den) 17 1 with
        | none => []
        | some (n, e) =>
          let digits := Nat.toDigits 10 n
          layOut (dropZeros digits) (e + digits.length)
    String.ofList (if negative then '-' :: body else body)

/-- A double with two digits after the point, rounded to the nearest, the even one of two. -/
def fixed2 (x : Double) : String :=
  match x with
  | .nan => "nan"
  | .infinite negative => if negative then "-inf" else "inf"
  | .finite negative m e =>
    let (num, den) := Double.magnitude m e
    let hundredths := Double.divRound (num * 100) den
    let cents := Nat.toDigits 10 (hundredths % 100)
    let body := Nat.toDigits 10 (hundredths / 100) ++ '.' ::
      (if cents.length < 2 then '0' :: cents else cents)
    String.ofList (if negative then '-' :: body else body)

/-- A number of seconds in milliseconds, rounded to two digits after the point. -/
def milliseconds (seconds : Double) : Double :=
  match seconds.mul (.ofInt 1000) with
  | .finite negative m e =>
    let (num, den) := Double.magnitude m e
    .ofRatio negative (Double.divRound (num * 100) den) 100
  | x => x

end TokenIssuer.Number
