import TokenIssuer.Json.Basic

/-!
The order of JSON values: numbers and truth values by their size, texts by their characters, and
lists by their first items that differ. Values of other kinds, and of two kinds, have no order.
-/

namespace TokenIssuer.Json

structure Unordered where
  left : String
  right : String
  deriving DecidableEq, Repr

def Unordered.message (u : Unordered) : String :=
  s!"'>=' not supported between instances of '{u.left}' and '{u.right}'"

/-- The number a value is: an integer, or any other number. A truth value is zero or one. -/
def number? : Json → Option (Int ⊕ Double)
  | .int n => some (.inl n)
  | .bool b => some (.inl (if b then 1 else 0))
  | .float x => some (.inr x)
  | _ => none

/-- The first number is at most the second; integers are compared as they are. -/
def numberLe : Int ⊕ Double → Int ⊕ Double → Bool
  | .inl m, .inl n => m ≤ n
  | .inr x, .inr y => x.le y
  | .inl m, .inr y =>
    match y with
    | .infinite negative => !negative
    | y => (y.toRat?.map fun r => decide ((m : Rat) ≤ r)).getD false
  | .inr x, .inl n =>
    match x with
    | .infinite negative => negative
    | x => (x.toRat?.map fun r => decide (r ≤ (n : Rat))).getD false

mutual

/-- The values are equal; a truth value equals its number. -/
def same : Json → Json → Bool
  | .arr vs, w =>
    match w with
    | .arr ws => sameItems vs ws
    | _ => false
  | .obj fs, w =>
    match w with
    | .obj gs => fs.length == gs.length && sameFields fs gs
    | _ => false
  | v, w =>
    match number? v, number? w with
    | some m, some n => numberLe m n && numberLe n m
    | none, none => v == w
    | _, _ => false

def sameItems : List Json → List Json → Bool
  | [], ws => ws.isEmpty
  | v :: vs, ws =>
    match ws with
    | [] => false
    | w :: ws => same v w && sameItems vs ws

/-- Every field is one of the others, too. -/
def sameFields : List (String × Json) → List (String × Json) → Bool
  | [], _ => true
  | (name, v) :: fs, gs => ((gs.lookup name).map fun w => same v w).getD false && sameFields fs gs

end

mutual

def atLeast : Json → Json → Except Unordered Bool
  | .arr vs, w =>
    match w with
    | .arr ws => itemsAtLeast vs ws
    | w => .error ⟨"list", w.kind⟩
  | .str s, w =>
    match w with
    | .str t => .ok (t ≤ s)
    | w => .error ⟨"str", w.kind⟩
  | v, w =>
    match number? v, number? w with
    | some m, some n => .ok (numberLe n m)
    | _, _ => .error ⟨v.kind, w.kind⟩

/-- The first list is at least the second: so are the first items that differ, or the second list
ends before there are any. -/
def itemsAtLeast : List Json → List Json → Except Unordered Bool
  | [], ws => .ok ws.isEmpty
  | v :: vs, ws =>
    match ws with
    | [] => .ok true
    | w :: ws => if same v w then itemsAtLeast vs ws else atLeast v w

end

/-- A value that rows can be told apart by. A number is known by its value, however it is
written. -/
inductive Key where
  | null
  | int (value : Int)
  | float (value : Double)
  | text (value : String)
  deriving DecidableEq, Repr

/-- The key a value is, or its kind if it is none. -/
def key : Json → Except String Key
  | .null => .ok .null
  | .bool b => .ok (.int (if b then 1 else 0))
  | .int n => .ok (.int n)
  | .float x => .ok ((x.toInt?.map .int).getD (.float x))
  | .str s => .ok (.text s)
  | v => .error v.kind

end TokenIssuer.Json
