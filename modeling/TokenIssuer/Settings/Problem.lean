import TokenIssuer.Text.Phrase

/-!
What can be wrong with a setting. All faults of a reading are collected; each tells the place of the
value and what is wrong with it.
-/

namespace TokenIssuer.Settings

inductive Problem where
  | intParsing
  | intSize
  | intFromFloat
  /-- The value is of a kind that is never an integer. -/
  | intType
  | finiteNumber
  | tooSmall (least : Int)
  | stringType
  /-- The value is a text with half of a surrogate pair in it. -/
  | stringUnicode
  | listType
  /-- The value is none of those that stand for a truth value. -/
  | boolParsing
  /-- The value is of a kind that is never a truth value. -/
  | boolType
  | choice (words : List String)
  | section (model : String)
  | noScopes
  /-- A scope has a name that cannot stand in a scope text. -/
  | scopeName (name : Phrase)
  /-- The demo clients are wanted, but not the scope they have. -/
  | demoScope
  deriving DecidableEq, Repr

namespace Problem

def code : Problem → String
  | .intParsing => "int_parsing"
  | .intSize => "int_parsing_size"
  | .intFromFloat => "int_from_float"
  | .intType => "int_type"
  | .finiteNumber => "finite_number"
  | .tooSmall _ => "greater_than_equal"
  | .stringType => "string_type"
  | .stringUnicode => "string_unicode"
  | .listType => "list_type"
  | .boolParsing => "bool_parsing"
  | .boolType => "bool_type"
  | .choice _ => "literal_error"
  | .section _ => "model_type"
  | .noScopes => "value_error"
  | .scopeName _ => "value_error"
  | .demoScope => "value_error"

/-- Words in quotes with commas between them and a conjunction before the last. -/
def alternatives : List String → String
  | [] => ""
  | [w] => "'" ++ w ++ "'"
  | [v, w] => "'" ++ v ++ "' or '" ++ w ++ "'"
  | w :: ws => "'" ++ w ++ "', " ++ alternatives ws

def message : Problem → String
  | .intParsing => "Input should be a valid integer, unable to parse string as an integer"
  | .intSize => "Unable to parse input string as an integer, exceeded maximum size"
  | .intFromFloat => "Input should be a valid integer, got a number with a fractional part"
  | .intType => "Input should be a valid integer"
  | .finiteNumber => "Input should be a finite number"
  | .tooSmall least => s!"Input should be greater than or equal to {least}"
  | .stringType => "Input should be a valid string"
  | .stringUnicode =>
    "Input should be a valid string, unable to parse raw data as a unicode string"
  | .listType => "Input should be a valid list"
  | .boolParsing => "Input should be a valid boolean, unable to interpret input"
  | .boolType => "Input should be a valid boolean"
  | .choice words => "Input should be " ++ alternatives words
  | .section model => "Input should be a valid dictionary or instance of " ++ model
  | .noScopes => "Value error, scopes.valid_scopes must contain at least one scope."
  | .scopeName name =>
    "Value error, scopes.valid_scopes contains an invalid name: " ++
      String.ofList name.quote ++ "."
  | .demoScope =>
    "Value error, scopes.valid_scopes must include 'basic' when clients.seed_demo_clients " ++
      "is enabled."

end Problem

inductive Step where
  | field (name : String)
  | item (index : Nat)
  deriving DecidableEq, Repr

structure Invalid where
  place : List Step
  problem : Problem
  deriving DecidableEq, Repr

/-- A value, or everything that is wrong with it. -/
abbrev Checked (α : Type) := Except (List Invalid) α

namespace Checked

def fail {α : Type} (problem : Problem) : Checked α := Except.error [⟨[], problem⟩]

/-- The reading of a part, whose problems lie one step further. -/
def under {α : Type} (step : Step) (checked : Checked α) : Checked α :=
  checked.mapError fun problems => problems.map fun p => { p with place := step :: p.place }

/-- The readings of two parts; the problems of both are kept. -/
def both {α β : Type} (a : Checked α) (b : Checked β) : Checked (α × β) :=
  match a, b with
  | .ok x, .ok y => .ok (x, y)
  | .error ps, .ok _ => .error ps
  | .ok _, .error qs => .error qs
  | .error ps, .error qs => .error (ps ++ qs)

/-- The readings of all items of a list from the index on; the problems of all are kept. -/
def all {α β : Type} (read : α → Checked β) : (index : Nat) → List α → Checked (List β)
  | _, [] => .ok []
  | i, x :: xs =>
    (both (under (.item i) (read x)) (all read (i + 1) xs)).map fun p => p.1 :: p.2

end Checked

end TokenIssuer.Settings
