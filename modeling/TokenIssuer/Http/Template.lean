import TokenIssuer.Number.Read
import TokenIssuer.Text.Fold
import TokenIssuer.Text.Order

/-!
Templates of paths. A name between braces stands for a part of the path: for one segment, or for
what the kind after a colon says. Of several ways a path may fit, the one is taken in which the
earlier parts are as long as they can be.
-/

namespace TokenIssuer.Http

inductive Kind where
  | segment
  | path
  | integer
  | decimal
  /-- Hexadecimal digits in the five groups of an identifier, possibly with hyphens between them. -/
  | identifier
  deriving DecidableEq, Repr

def Kind.names : List (String × Kind) :=
  [("str", .segment), ("path", .path), ("int", .integer), ("float", .decimal),
   ("uuid", .identifier)]

/-- The first `n` lengths from the greatest to one. -/
def lengthsTo (n : Nat) : List Nat := (List.range n).reverse.map (· + 1)

def digitCount (s : List Char) : Nat := (s.takeWhile fun c => '0' ≤ c ∧ c ≤ '9').length

/-- The length of groups of hexadecimal digits of given sizes at the start, with a hyphen before
each group but the first if there is one. -/
def groupsLength? : List Nat → List Char → Option Nat
  | [], _ => some 0
  | size :: sizes, s =>
    if size ≤ (s.takeWhile fun c => (Text.hexValue? c).isSome).length then
      match s.drop size, sizes with
      | '-' :: rest, _ :: _ => (groupsLength? sizes rest).map (size + 1 + ·)
      | rest, _ => (groupsLength? sizes rest).map (size + ·)
    else none

/-- How long a part of a kind at the start of a text may be, the greatest length first. -/
def Kind.lengths : Kind → List Char → List Nat
  | .segment, s => lengthsTo (s.takeWhile (· ≠ '/')).length
  | .path, s => lengthsTo (s.takeWhile (· ≠ '\n')).length ++ [0]
  | .integer, s => lengthsTo (digitCount s)
  | .decimal, s =>
    let whole := digitCount s
    let longer :=
      match whole, s.drop whole with
      | _ + 1, '.' :: fraction => (lengthsTo (digitCount fraction)).map (whole + 1 + ·)
      | _, _ => []
    longer ++ lengthsTo whole
  | .identifier, s => (groupsLength? [8, 4, 4, 4, 12] s).toList

inductive Piece where
  | char (c : Char)
  | letter (c : Char)
  | named (kind : Kind)
  deriving DecidableEq, Repr

/-- The named parts of a path that fits the pieces, each with its kind. One line feed may follow at
the end. -/
def captures? : List Piece → List Char → Option (List (Kind × List Char))
  | [], s => if s = [] ∨ s = ['\n'] then some [] else none
  | .char c :: ps, s =>
    match s with
    | [] => none
    | d :: cs => if c = d then captures? ps cs else none
  | .letter c :: ps, s =>
    match s with
    | [] => none
    | d :: cs => if Text.sameLetter c d then captures? ps cs else none
  | .named kind :: ps, s =>
    (kind.lengths s).findSome? fun n =>
      (captures? ps (s.drop n)).map ((kind, s.take n) :: ·)

structure Template where
  text : String
  pieces : List Piece
  deriving DecidableEq, Repr

namespace Template

/-- The template that only the path itself fits. -/
def plain (path : String) : Template := ⟨path, path.toList.map .char⟩

def match? (t : Template) (path : String) : Option (List (Kind × List Char)) :=
  captures? t.pieces path.toList

/-- How many digits a number has that has too many. -/
def tooLong? (part : Kind × List Char) : Option Nat :=
  if part.1 = .integer ∧ Number.maxDigits < part.2.length then some part.2.length else none

inductive Fault where
  | unknownKind (name : String)
  | repeated (names : List String) (template : String)
  deriving DecidableEq, Repr

def Fault.message : Fault → String
  | .unknownKind name => s!"Unknown path convertor '{name}'"
  | .repeated names template =>
    "Duplicated param name" ++ (if names.length = 1 then " " else "s ") ++
      ", ".intercalate names ++ " at path " ++ template

/-- A word at the start of a text: a letter or an underscore, and more of them or digits. -/
def takeWord (s : List Char) : List Char × List Char :=
  match s with
  | c :: _ =>
    if c.isAlpha || c = '_' then s.span fun c => c.isAlphanum || c = '_' else ([], s)
  | [] => ([], s)

/-- What follows an opening brace, if it is a name, possibly a colon and the name of a kind, and a
closing brace: both names and the rest. -/
def takeNamed? (s : List Char) : Option (List Char × List Char × List Char) :=
  match takeWord s with
  | ([], _) => none
  | (name, '\x7d' :: rest) => some (name, "str".toList, rest)
  | (name, ':' :: rest) =>
    match takeWord rest with
    | ([], _) => none
    | (kind, '\x7d' :: rest) => some (name, kind, rest)
    | _ => none
  | _ => none

/-- The pieces of a text with the names in it. A brace that begins no name stands for itself. -/
def readPieces : (fuel : Nat) → List Char → Except Fault (List String × List Piece)
  | 0, _ => .ok ([], [])
  | fuel + 1, s =>
    match s with
    | [] => .ok ([], [])
    | c :: cs =>
      match if c = '\x7b' then takeNamed? cs else none with
      | none => do
        let (names, pieces) ← readPieces fuel cs
        pure (names, .char c :: pieces)
      | some (name, kind, rest) =>
        match Kind.names.lookup (String.ofList kind) with
        | none => .error (.unknownKind (String.ofList kind))
        | some kind => do
          let (names, pieces) ← readPieces fuel rest
          pure (String.ofList name :: names, .named kind :: pieces)

/-- A name or an address of a host without the port that follows it after a colon. An address
between brackets may hold colons itself. -/
def dropPort (host : List Char) : List Char :=
  match host with
  | '[' :: cs =>
    match Text.cut ']' cs with
    | (address, some _) => '[' :: address ++ [']']
    | _ => Text.before ':' host
  | _ => Text.before ':' host

/-- The characters of pieces that are nothing else. -/
def chars? : List Piece → Option (List Char)
  | [] => some []
  | .char c :: ps => (c :: ·) <$> chars? ps
  | _ :: _ => none

/-- The pieces of a template that begins with the name of a host: its letters may be of either case,
and after the last named part there is no port. -/
def hostPieces : List Piece → List Piece
  | [] => []
  | p :: ps =>
    match chars? (p :: ps), p with
    | some cs, _ => (dropPort cs).map .letter
    | none, .char c => .letter c :: hostPieces ps
    | none, p => p :: hostPieces ps

/-- Reads a template. One that does not begin with a slash begins with the name of a host, which is
read without a port and whatever the case of its letters. -/
def read (text : String) : Except Fault Template := do
  let (names, pieces) ← readPieces text.length text.toList
  let pieces := if text.toList.head? = some '/' then pieces else hostPieces pieces
  match Text.setOf (names.filter fun n => 1 < names.count n) with
  | [] => pure ⟨text, pieces⟩
  | repeated => .error (.repeated repeated text)

end Template

end TokenIssuer.Http
