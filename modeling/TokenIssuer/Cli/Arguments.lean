import TokenIssuer.Number.Read
import TokenIssuer.Text.Quoted

/-!
The arguments of the command line: one command, with an option for the secret. An option may be
shortened as long as it stays clear which one is meant, and its value may follow after an equals
sign.
-/

namespace TokenIssuer.Cli

/-- The command line stops here: with a status, and with texts on both outputs. -/
structure Stop where
  exit : Nat
  out : String
  err : String
  deriving DecidableEq, Repr

inductive Switch where
  | help
  | secret
  deriving DecidableEq, Repr

/-- A parser of arguments: of the program, or of its command. -/
structure Parser where
  program : String
  synopsis : String
  details : String
  options : List (String × Switch)

namespace Parser

def usage (p : Parser) : String := "usage: " ++ p.program ++ " " ++ p.synopsis ++ "\n"

def helpStop (p : Parser) : Stop := ⟨0, p.usage ++ "\n" ++ p.details, ""⟩

def errorStop (p : Parser) (message : String) : Stop :=
  ⟨2, "", p.usage ++ p.program ++ ": error: " ++ message ++ "\n"⟩

end Parser

/-- How a value is attached to an option. -/
inductive Attached where
  | none
  /-- To a short option, right behind it or after an equals sign. -/
  | short (value : List Char)
  | long (value : List Char)
  deriving DecidableEq, Repr

/-- What an argument is taken for. -/
inductive Kind where
  | plain
  | mark
  | option (which : Switch) (value : Attached)
  /-- Something that looks like an option and is none. -/
  | unknown
  deriving DecidableEq, Repr

/-- The text is a negative number, possibly with a line feed at its end. -/
def isNegativeNumber (s : List Char) : Bool :=
  match s with
  | '-' :: cs =>
    let cs := if cs.getLast? = some '\n' then cs.dropLast else cs
    match cs.span fun c => (Text.digitValue? c).isSome with
    | (whole, []) => !whole.isEmpty
    | (_, '.' :: fraction) =>
      !fraction.isEmpty && fraction.all fun c => (Text.digitValue? c).isSome
    | _ => false
  | _ => false

/-- The options an argument may be short for, each with the way it is written in full. -/
def candidates (p : Parser) (arg : String) : List (String × Kind) :=
  match arg.toList with
  | '-' :: '-' :: _ =>
    let (name, value) := Text.cut '=' arg.toList
    (p.options.filter fun o => name.isPrefixOf o.1.toList).map fun o =>
      (o.1, .option o.2 (value.elim .none .long))
  | '-' :: c :: cs =>
    (p.options.filter fun o => o.1.toList = ['-', c]).map fun o => (o.1, .option o.2 (.short cs))
  | _ => []

/-- The value after an equals sign of an option that is written in full. -/
def attach (name value : List Char) : Attached :=
  if "--".toList.isPrefixOf name then .long value else .short value

def classify (p : Parser) (arg : String) : Except Stop Kind :=
  let s := arg.toList
  if s.head? ≠ some '-' then .ok .plain
  else
    match p.options.lookup arg with
    | some which => .ok (.option which .none)
    | none =>
      -- A hyphen alone is an argument like any other.
      if s.length = 1 then .ok .plain
      else
        let (name, value) := Text.cut '=' arg.toList
        match value, p.options.lookup (String.ofList name) with
        | some value, some which => .ok (.option which (attach name value))
        | _, _ =>
          match candidates p arg with
          | [(_, kind)] => .ok kind
          -- No option: a number or a text with a space is still an argument.
          | [] =>
            if isNegativeNumber s || s.contains ' ' then .ok .plain else .ok .unknown
          | many =>
            .error (p.errorStop ("ambiguous option: " ++ arg ++ " could match " ++
              ", ".intercalate (many.map (·.1))))

/-- What each argument is taken for. After a mark all are plain. -/
def classifyAll (p : Parser) : List String → Except Stop (List (String × Kind))
  | [] => .ok []
  | arg :: rest =>
    if arg = "--" then .ok ((arg, .mark) :: rest.map fun a => (a, .plain))
    else do
      let kind ← classify p arg
      let kinds ← classifyAll p rest
      pure ((arg, kind) :: kinds)

def ignoredValue (p : Parser) (value : List Char) : Stop :=
  p.errorStop ("argument -h/--help: ignored explicit argument " ++
    String.ofList (Text.quote value))

/-- Asking for help by a short option with a value, of which only repetitions of the option are
understood. -/
def askHelpShort (p : Parser) : List Char → Stop
  | 'h' :: [] => p.helpStop
  | 'h' :: rest => askHelpShort p rest
  | value => ignoredValue p value

/-- Asking for help stops with it, unless it is given a value. -/
def askHelp (p : Parser) : Attached → Stop
  | .none => p.helpStop
  | .short value => askHelpShort p value
  | .long value => ignoredValue p value

/-- What a command is given: the secret, and the arguments nobody asked for. -/
structure Given where
  secret : Option String
  extra : List String

/-- Reads the arguments of the command. Of several secrets the last counts. -/
def readCommand (p : Parser) : Given → List (String × Kind) → Except Stop Given
  | given, [] => .ok given
  | given, (arg, .plain) :: rest | given, (arg, .mark) :: rest
  | given, (arg, .unknown) :: rest =>
    readCommand p { given with extra := given.extra ++ [arg] } rest
  | _, (_, .option .help value) :: _ => .error (askHelp p value)
  | given, (_, .option .secret (.short value)) :: rest
  | given, (_, .option .secret (.long value)) :: rest =>
    readCommand p { given with secret := some (String.ofList value) } rest
  | given, (_, .option .secret .none) :: (arg, .plain) :: rest =>
    readCommand p { given with secret := some arg } rest
  | _, (_, .option .secret .none) :: _ =>
    .error (p.errorStop "argument --secret: expected one argument")

def programName : String := "python -m oauth_server.cli"

def commandName : String := "hash-client-secret"

def program : Parser :=
  { program := programName
    synopsis := "[-h] \x7bhash-client-secret\x7d ..."
    details := "positional arguments:\n  \x7bhash-client-secret\x7d\n\noptions:\n" ++
      "  -h, --help            show this help message and exit\n"
    options := [("-h", .help), ("--help", .help)] }

def command : Parser :=
  { program := programName ++ " " ++ commandName
    synopsis := "[-h] [--secret SECRET]"
    details := "options:\n" ++
      "  -h, --help       show this help message and exit\n" ++
      "  --secret SECRET  Secret to hash. A random secret is generated and printed\n" ++
      "                   once when omitted.\n"
    options := [("-h", .help), ("--help", .help), ("--secret", .secret)] }

/-- Reads the arguments of the program, up to its command and those of the command. `extra` are
arguments before the command that nobody asked for. -/
def readProgram : (extra : List String) → List (String × Kind) → Except Stop (Option String)
  | _, [] => .error (program.errorStop "the following arguments are required: command")
  | _, [(_, .mark)] => .error (program.errorStop "the following arguments are required: command")
  | extra, (arg, .unknown) :: rest => readProgram (extra ++ [arg]) rest
  | _, (_, .option _ value) :: _ => .error (askHelp program value)
  | extra, (arg, _) :: rest =>
    if arg ≠ commandName then
      .error (program.errorStop ("argument command: invalid choice: " ++
        String.ofList (Text.quote arg.toList) ++ " (choose from '" ++ commandName ++ "')"))
    else do
      let given ← readCommand command ⟨none, []⟩ (← classifyAll command (rest.map (·.1)))
      -- The command does not mind what it did not ask for; the program does.
      match extra ++ given.extra with
      | [] => pure given.secret
      | unasked =>
        .error (program.errorStop ("unrecognized arguments: " ++ " ".intercalate unasked))

/-- Reads all arguments: the secret to hash, if one is given, or why the program stops. -/
def read (args : List String) : Except Stop (Option String) := do
  readProgram [] (← classifyAll program args)

end TokenIssuer.Cli
