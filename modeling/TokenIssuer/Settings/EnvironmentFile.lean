import TokenIssuer.Assoc
import TokenIssuer.Number.Read
import TokenIssuer.Text.Cut

/-!
Environment files: a variable on each line, its value plain or between quotes, with comments after a
number sign. A value may refer to the variables before it and to those of the environment. A line
that cannot be read is skipped.
-/

namespace TokenIssuer.Settings.EnvironmentFile

open Text

def isLineEnd (c : Char) : Bool := c == '\r' || c == '\n'

def isLineBlank (c : Char) : Bool := isBlank c && !isLineEnd c

/-- Drops the blanks at the start that are within the line. -/
def skipLineBlanks (s : List Char) : List Char := s.dropWhile isLineBlank

/-- Drops the rest of the line and one character that ends it. -/
def skipLine (s : List Char) : List Char := (s.dropWhile fun c => !isLineEnd c).drop 1

/-- What follows the word `export`, if blanks come after it. -/
def skipExport (s : List Char) : List Char :=
  if "export".toList.isPrefixOf s then
    let rest := s.drop 6
    let body := skipLineBlanks rest
    if body.length < rest.length then body else s
  else s

/-- The text up to the closing quote and what follows it. A character after a backslash never closes
the text. -/
def takeQuoted? (q : Char) : List Char → Option (List Char × List Char)
  | [] => none
  | '\\' :: c :: cs => (takeQuoted? q cs).map fun p => ('\\' :: c :: p.1, p.2)
  | c :: cs => if c = q then some ([], cs) else (takeQuoted? q cs).map fun p => (c :: p.1, p.2)

/-- What an escape in a text between quotes stands for. -/
def escaped? (q : Char) (c : Char) : Option Char :=
  if c = '\\' ∨ c = '\'' then some c
  else if q = '\'' then none
  else
    match c with
    | '"' => some '"'
    | 'a' => some '\x07'
    | 'b' => some '\x08'
    | 'f' => some '\x0c'
    | 'n' => some '\n'
    | 'r' => some '\r'
    | 't' => some '\t'
    | 'v' => some '\x0b'
    | _ => none

/-- The text with its escapes replaced; an unknown escape stays. -/
def unescape (q : Char) : List Char → List Char
  | '\\' :: c :: cs =>
    match escaped? q c with
    | some e => e :: unescape q cs
    | none => '\\' :: unescape q (c :: cs)
  | c :: cs => c :: unescape q cs
  | [] => []

/-- The text before a comment: a number sign with blanks before it. -/
def dropComment : List Char → List Char
  | [] => []
  | c :: cs =>
    if isBlank c && (cs.dropWhile isBlank).head? == some '#' then [] else c :: dropComment cs

def takeValue? (s : List Char) : Option (List Char × List Char) :=
  match s with
  | [] => some ([], [])
  | c :: cs =>
    if c = '\'' ∨ c = '"' then (takeQuoted? c cs).map fun p => (unescape c p.1, p.2)
    else
      let line := s.takeWhile fun c => !isLineEnd c
      some (dropEndWhile isBlank (dropComment line), s.drop line.length)

/-- The name of a variable and what follows it; a comment has no name. -/
def takeKey? (s : List Char) : Option (Option (List Char) × List Char) :=
  match s with
  | [] => none
  | '#' :: _ => some (none, s)
  | '\'' :: cs =>
    match cs.span (· ≠ '\'') with
    | (_ :: _, []) => none
    | ([], _) => none
    | (key, _ :: rest) => some (some key, rest)
  | _ =>
    match s.span fun c => c ≠ '=' ∧ c ≠ '#' ∧ !isBlank c with
    | ([], _) => none
    | (key, rest) => some (some key, rest)

/-- What follows a comment and the end of the line; nothing else may come before it. -/
def endLine? (s : List Char) : Option (List Char) :=
  let rest := skipLineBlanks s
  let rest := if rest.head? = some '#' then rest.dropWhile fun c => !isLineEnd c else rest
  match rest with
  | [] => some []
  | '\r' :: '\n' :: cs => some cs
  | c :: cs => if isLineEnd c then some cs else none

structure Line where
  /-- The variable and its value, if the line has them. -/
  binding : Option (List Char × Option (List Char))
  rest : List Char

/-- A value after an equals sign, if there is one, and what follows. The value is empty if a comment
comes after some blanks. -/
def takeAssignment? (s : List Char) : Option (Option (List Char) × List Char) :=
  match s with
  | '=' :: cs =>
    let body := skipLineBlanks cs
    if body.length < cs.length ∧ body.head? = some '#' then some (some [], body)
    else (takeValue? body).map fun p => (some p.1, p.2)
  | _ => some (none, s)

/-- Reads one line. What cannot be read is skipped from where it goes wrong up to the end of the
line. -/
def readLine (s : List Char) : Line :=
  match takeKey? (skipExport s) with
  | none => ⟨none, skipLine (skipExport s)⟩
  | some (key, afterKey) =>
    let afterKey := skipLineBlanks afterKey
    match takeAssignment? afterKey with
    | none => ⟨none, skipLine afterKey⟩
    | some (value, afterValue) =>
      match endLine? afterValue with
      | none => ⟨none, skipLine afterValue⟩
      | some rest => ⟨key.map (·, value), rest⟩

/-- The variables of a file in order, each with its value if it has one. -/
def bindings : (fuel : Nat) → List Char → List (List Char × Option (List Char))
  | 0, _ => []
  | fuel + 1, s =>
    match s.dropWhile isBlank with
    | [] => []
    | s =>
      let line := readLine s
      line.binding.toList ++ bindings fuel line.rest

/-- A reference to a variable after its opening brace: the name, the value to take if there is no
such variable, and what follows. -/
def takeReference? (s : List Char) : Option (List Char × List Char × List Char) :=
  let (name, rest) := s.span fun c => c ≠ '\x7d' ∧ c ≠ ':'
  match rest with
  | '\x7d' :: cs => some (name, [], cs)
  | ':' :: '-' :: cs =>
    match cut '\x7d' cs with
    | (default, some cs) => some (name, default, cs)
    | _ => none
  | _ => none

/-- The value with its references replaced by what `known` has for them. -/
def expand (known : List Char → Option (List Char)) : (fuel : Nat) → List Char → List Char
  | 0, s => s
  | fuel + 1, s =>
    match s with
    | [] => []
    | '$' :: '\x7b' :: cs =>
      match takeReference? cs with
      | some (name, default, rest) => (known name).getD default ++ expand known fuel rest
      | none => '$' :: expand known fuel ('\x7b' :: cs)
    | c :: cs => c :: expand known fuel cs

/-- The variables of a file with the references in their values replaced. A variable of the file
wins over one of the environment, and one without a value counts as empty. -/
def resolve (environment : List (String × String)) :
    List (String × Option String) → List (List Char × Option (List Char)) →
      List (String × Option String)
  | seen, [] => seen
  | seen, (name, value) :: rest =>
    let known (n : List Char) : Option (List Char) :=
      match seen.lookup (String.ofList n) with
      | some value => some (value.getD "").toList
      | none => (environment.lookup (String.ofList n)).map String.toList
    let value := value.map fun v => String.ofList (expand known v.length v)
    resolve environment (Assoc.put (String.ofList name) value seen) rest

/-- The text with a line feed at every end of a line. -/
def unifyLines : List Char → List Char
  | '\r' :: '\n' :: cs => '\n' :: unifyLines cs
  | '\r' :: cs => '\n' :: unifyLines cs
  | c :: cs => c :: unifyLines cs
  | [] => []

/-- The text without the mark of its byte order. -/
def dropMark : List Char → List Char
  | '\uFEFF' :: cs => cs
  | s => s

def read (environment : List (String × String)) (file : String) : List (String × Option String) :=
  let text := unifyLines (dropMark file.toList)
  resolve environment [] (bindings (text.length + 1) text)

end TokenIssuer.Settings.EnvironmentFile
