import TokenIssuer.Assoc
import TokenIssuer.Json.Literal
import TokenIssuer.Json.Parser
import TokenIssuer.Number.Read
import TokenIssuer.Number.Show
import TokenIssuer.Text.Utf8

/-!
Floors for line coverage. A report tells, for every file, how many statements it has and how many of
them were run; the share of each package must not be below its floor.
-/

namespace TokenIssuer.Coverage

inductive Fault where
  | json (message : String)
  /-- The report has a value of a kind inside too many others. -/
  | tooDeep (kind : String)
  | tooLong (digits : Nat)
  /-- A step of the path of the report is too long for a name of a file. -/
  | longName (path : String)
  | notNumber (text : String)
  | notInteger (text : String)
  /-- The number has no integer part: it is none, or infinite. -/
  | noIntegerPart (infinite : Bool)
  /-- The value is of a kind that has no integer part. -/
  | noInteger (kind : String)
  | missing (name : String)
  | noPart (kind part : String)
  | noFields (kind : String)
  | tooLarge
  deriving DecidableEq, Repr

def Fault.message : Fault → String
  | .json message => message
  | .tooDeep kind => (Json.Fault.tooDeep kind).message []
  | .tooLong digits => Number.tooLongMessage digits
  | .longName path => "[Errno 36] File name too long: " ++ String.ofList (Text.quote path.toList)
  | .notNumber text =>
    "could not convert string to float: " ++ String.ofList (Text.quote text.toList)
  | .notInteger text =>
    "invalid literal for int() with base 10: " ++ String.ofList ((Text.quote text.toList).take 200)
  | .noIntegerPart infinite =>
    if infinite then "cannot convert float infinity to integer"
    else "cannot convert float NaN to integer"
  | .noInteger kind =>
    "int() argument must be a string, a bytes-like object or a real number, not '" ++ kind ++ "'"
  | .missing name => String.ofList (Text.quote name.toList)
  | .noPart kind part => "'" ++ kind ++ "' object has no attribute '" ++ part ++ "'"
  | .noFields kind =>
    match kind with
    | "str" => "string indices must be integers, not 'str'"
    | "list" => "list indices must be integers or slices, not str"
    | kind => "'" ++ kind ++ "' object is not subscriptable"
  | .tooLarge => "int too large to convert to float"

/-- A package with the least share of its statements that must be run, in percent. -/
abbrev Floors := List (String × Double)

def whole (n : Nat) : Double := .ofInt n

def defaultFloors : Floors :=
  [("oauth_server/core", whole 95), ("oauth_server/services", whole 90),
   ("oauth_server/routers", whole 85), ("oauth_server/dependencies.py", whole 90)]

/-- Adds a floor, given as a package and a number with an equals sign between them. -/
def addFloor (floors : Floors) (argument : String) : Except Fault Floors :=
  let (package, percent) := Text.cut '=' argument.toList
  let percent := percent.getD []
  match Number.readDouble? percent with
  | none => .error (.notNumber (String.ofList percent))
  | some x => .ok (Assoc.put (String.ofList package) x floors)

def readFloors (arguments : List String) : Except Fault Floors :=
  arguments.foldlM addFloor defaultFloors

def get (value : Json) (name : String) : Except Fault Json :=
  match value with
  | .obj fields =>
    match fields.lookup name with
    | some v => .ok v
    | none => .error (.missing name)
  | other => .error (.noFields other.kind)

/-- The integer part of a number, or the integer a text stands for. -/
def toInteger : Json → Except Fault Int
  | .int n => .ok n
  | .bool b => .ok (if b then 1 else 0)
  | .float x =>
    match x.truncate? with
    | some n => .ok n
    | none => .error (.noIntegerPart (x != .nan))
  | .str s =>
    match Number.readInt s.toList with
    | .ok n => .ok n
    | .error .malformed => .error (.notInteger s)
    | .error (.tooLong digits) => .error (.tooLong digits)
  | other => .error (.noInteger other.kind)

def slashed (path : String) : List Char := path.toList.map fun c => if c = '\\' then '/' else c

/-- A file counts towards a package: its path starts with that of the package. -/
def belongs (package path : String) : Bool := package.toList.isPrefixOf (slashed path)

def summaries (files : List (String × Json)) (package : String) : Except Fault (List Json) :=
  (files.filter fun f => belongs package f.1).mapM fun f => get f.2 "summary"

def total (name : String) (summaries : List Json) : Except Fault Int := do
  let numbers ← summaries.mapM fun summary => do toInteger (← get summary name)
  pure (numbers.foldl (· + ·) 0)

def inRange (x : Double) : Except Fault Double :=
  match x with
  | .infinite _ => .error .tooLarge
  | x => .ok x

structure Measure where
  /-- The share of the statements that were run, in percent. -/
  percent : Double
  files : Nat
  deriving DecidableEq, Repr

/-- Measures a package. Without statements its share is whole if it has files at all. -/
def measure (files : List (String × Json)) (package : String) : Except Fault Measure := do
  let found ← summaries files package
  let statements ← total "num_statements" found
  let covered ← total "covered_lines" found
  if statements = 0 then
    pure ⟨if found.isEmpty then whole 0 else whole 100, found.length⟩
  else
    let share := (← inRange (.ofInt covered)).mul (whole 100)
    pure ⟨share.div (← inRange (.ofInt statements)), found.length⟩

/-- The package has files and its share is not below the floor. -/
def Measure.passes (m : Measure) (floor : Double) : Bool := 0 < m.files && floor.le m.percent

def line (package : String) (floor : Double) (m : Measure) : String :=
  (if m.passes floor then "[ok] " else "[FAIL] ") ++ package ++ ": " ++ Number.fixed2 m.percent ++
    s!"% over {m.files} file(s), floor " ++ Number.fixed2 floor ++ "%\n"

structure Verdict where
  exit : Nat
  out : String
  deriving DecidableEq, Repr

def filesOf (report : Json) : Except Fault Json :=
  match report with
  | .obj fields => .ok ((fields.lookup "files").getD (.obj []))
  | other => .error (.noPart other.kind "get")

/-- The files with what is told about them. -/
def entries : Json → Except Fault (List (String × Json))
  | .obj files => .ok files
  | other => .error (.noPart other.kind "items")

def judge (files : List (String × Json)) (floors : Floors) : Except Fault Verdict := do
  let measured ← floors.mapM fun f => do pure (f, ← measure files f.1)
  pure
    { exit := if measured.all fun p => p.2.passes p.1.2 then 0 else 1
      out := "".intercalate (measured.map fun p => line p.1.1 p.1.2 p.2) }

def usage : String :=
  "Usage: python tests/scripts/check_coverage_thresholds.py coverage.json [prefix=percent ...]\n"

/-- Checks a report, given as the text of its file if there is one, at a path. -/
def check (path : String) (report : Option String) (arguments : List String) :
    Except Fault Verdict :=
  match report with
  | none => .ok ⟨2, "Coverage report not found: " ++ path ++ "\n"⟩
  | some text =>
    match Json.parse text.toList with
    | .error (.tooLong digits) => .error (.tooLong digits)
    | .error (.tooDeep kind) => .error (.tooDeep kind)
    | .error fault => .error (.json (fault.message text.toList))
    | .ok value => do
      -- The floors are read before the files, so a floor that is no number is told first.
      let files ← filesOf value
      let floors ← readFloors arguments
      judge (← entries files) floors

/-- The slashes a path starts with: two are kept, and more count as one. -/
def root : List Char → List Char
  | '/' :: '/' :: '/' :: _ => ['/']
  | '/' :: '/' :: _ => ['/', '/']
  | '/' :: _ => ['/']
  | _ => []

/-- The steps of a path that lead somewhere. -/
def stepsOf (path : String) : List (List Char) :=
  (Text.splitOn '/' path.toList).filter fun s => !s.isEmpty && s != ['.']

/-- A path as it is shown: without repeated slashes and steps that lead nowhere. -/
def shownPath (path : String) : String :=
  let shown := root path.toList ++ Text.join ['/'] (stepsOf path)
  if shown.isEmpty then "." else String.ofList shown

def byteSize (s : List Char) : Nat := (Utf8.encode s).length

/-- A path that cannot even be looked for: it is too long as a whole, or its first step downwards
is too long for a name of a file. A path with a character of code zero is not looked for at all. -/
def isTooLong (path : String) : Bool :=
  let name := ((stepsOf path).dropWhile (· = ['.', '.'])).head?.getD []
  !path.toList.contains '\x00' && (4096 ≤ byteSize path.toList || 255 < byteSize name)

/-- Runs the check with its arguments: the path of the report and the floors. `readFile` tells the
text of a file, if there is one. -/
def run (readFile : String → Option String) : List String → Except Fault Verdict
  | [] => .ok ⟨2, usage⟩
  | path :: arguments =>
    if isTooLong (shownPath path) then .error (.longName (shownPath path))
    else check (shownPath path) (readFile path) arguments

end TokenIssuer.Coverage
