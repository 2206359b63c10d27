import UtxoBalance.Given

/-!
# Issues of settings

Settings are checked as a whole, and every value that does not fit gives an issue
with its place among them.

## Main definitions

- `Settings.Step`, `Settings.Issue` — a place and what is wrong there
- `Settings.Step.ofKey` — the step into the field under a key
- `Settings.Trouble` — what can be wrong
- `Settings.Invalid` — the issues of a set of settings
-/

namespace UtxoBalance.Settings

/-- One step on the way to a value inside settings. -/
inductive Step
  /-- Into the field of this name. -/
  | name (name : String)
  /-- Into the list item of this number. -/
  | index (index : Nat)
  /-- Into the field whose key is this integer. -/
  | number (key : Int)
  deriving DecidableEq, Repr

/-- The greatest integer that is a step by itself. -/
def Step.greatest : Int := Int.ofNat (Nat.pow 2 63) - 1

/-- The step of an integer key: the integer, if it has 64 bits at most. -/
def Step.ofInteger (key : Int) : Step :=
  if -Step.greatest - 1 ≤ key ∧ key ≤ Step.greatest then .number key
  else .name (Atom.int key).shown

/-- The step into the field under a key. A key that is neither a text nor an integer is
    named by its one-line form. -/
def Step.ofKey : Atom → Step
  | .text key => .name key.octetwise
  | .int key => .ofInteger key
  | .bool key => .ofInteger (if key then 1 else 0)
  | key => .name key.shown

/-- What is wrong with a value. -/
inductive Trouble
  /-- It is missing. -/
  | missing
  /-- It is none of the values of an enumeration. -/
  | notInEnum (options : List String)
  /-- It is none of the texts that are allowed. -/
  | notLiteral (options : List String)
  /-- It is no text. -/
  | notText
  /-- It is a text or a byte string that is not made of characters. -/
  | notCharacters
  /-- It is an empty text. -/
  | emptyText
  /-- It is a text outside this pattern. -/
  | notMatching (pattern : String)
  /-- No field has this name. -/
  | extra
  /-- Its key is no text. -/
  | keyNotText
  /-- It is no list. -/
  | notList
  /-- It is no object, where the settings named here are needed. -/
  | notObject (model : String)
  /-- Rows of a table are asked for and no table is named. -/
  | noTable
  deriving DecidableEq, Repr

/-- The short name of a trouble. -/
def Trouble.code : Trouble → String
  | .missing => "missing"
  | .notInEnum _ => "enum"
  | .notLiteral _ => "literal_error"
  | .notText => "string_type"
  | .notCharacters => "string_unicode"
  | .emptyText => "string_too_short"
  | .notMatching _ => "string_pattern_mismatch"
  | .extra => "extra_forbidden"
  | .keyNotText => "invalid_key"
  | .notList => "list_type"
  | .notObject _ => "model_type"
  | .noTable => "value_error"

/-- Options in words: commas between them, and `or` before the last. -/
def optionsText : List String → String
  | [] => ""
  | [last] => last
  | [first, last] => first ++ " or " ++ last
  | first :: rest => first ++ ", " ++ optionsText rest

/-- The wording of a trouble. -/
def Trouble.message : Trouble → String
  | .missing => "Field required"
  | .notInEnum options | .notLiteral options =>
    "Input should be " ++ optionsText (options.map fun o => "'" ++ o ++ "'")
  | .notText => "Input should be a valid string"
  | .notCharacters =>
    "Input should be a valid string, unable to parse raw data as a unicode string"
  | .emptyText => "String should have at least 1 character"
  | .notMatching pattern => "String should match pattern '" ++ pattern ++ "'"
  | .extra => "Extra inputs are not permitted"
  | .keyNotText => "Keys should be strings"
  | .notList => "Input should be a valid list"
  | .notObject model => "Input should be a valid dictionary or instance of " ++ model
  | .noTable => "Value error, relational backend requires a table"

/-- A value that does not fit. -/
structure Issue where
  /-- The way to the value from the settings as a whole. -/
  place : List Step
  /-- What is wrong with it. -/
  trouble : Trouble
  deriving DecidableEq, Repr

/-- An issue seen from one step further out. -/
def Issue.inside (step : Step) (issue : Issue) : Issue :=
  { issue with place := step :: issue.place }

/-- Settings that do not fit. -/
structure Invalid where
  /-- The name of the settings that were asked for. -/
  model : String
  /-- The issues in order. -/
  issues : List Issue
  deriving DecidableEq, Repr

/-- The first line of a report: how many issues the settings have. -/
def Invalid.summary (invalid : Invalid) : String :=
  let count := invalid.issues.length
  toString count ++ " validation error" ++ (if count = 1 then "" else "s") ++ " for " ++
    invalid.model

end UtxoBalance.Settings
