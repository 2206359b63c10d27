import UtxoBalance.Failure
import UtxoBalance.Given
import UtxoBalance.Json.Reader
import UtxoBalance.Text.LowerCase

/-!
# Settings from the environment

A variable belongs to a field if its name is the name of the field behind a common
beginning, in either case. The variable of a field that has parts holds a JSON text;
where it is missing, variables for the parts may stand in for it.

## Main definitions

- `Settings.Environment` — variables with their values
- `Settings.Naming` — how variables are named
- `Settings.Naming.ofParameters` — the naming that a configuration file asks for
- `Settings.Naming.value?`, `Settings.Naming.hasParts` — the variables of a field
- `Settings.Naming.structured`, `Settings.Naming.plain` — what they say
-/

namespace UtxoBalance.Settings

/-- Environment variables with their values. -/
abbrev Environment := List (String × String)

/-- How variables are named. -/
structure Naming where
  /-- What the names begin with. -/
  start : String := "LEDGER_REDUCERS_"
  /-- What stands between the name of a field and that of a part of it. -/
  separator : String := "__"
  /-- Whether upper and lower case are told apart. -/
  matchesCase : Bool := false
  /-- Whether empty variables count as missing. -/
  ignoresEmpty : Bool := false
  /-- The value with which a variable counts as missing. -/
  missing : Option Text.Raw := none
  deriving DecidableEq, Repr

namespace Naming

/-- A name in the case in which it is compared. -/
def fold (naming : Naming) (name : String) : String :=
  if naming.matchesCase then name else Text.lower name

/-- The variables that count, under the names by which they are compared. -/
def counted (naming : Naming) (environment : Environment) : Environment :=
  environment.filterMap fun (name, value) =>
    if naming.ignoresEmpty && value.isEmpty then none else some (naming.fold name, value)

/-- The value of the variable of a field. Of several the last counts. -/
def value? (naming : Naming) (environment : Environment) (field : String) : Option String :=
  let name := naming.fold (naming.start ++ field)
  let found := ((naming.counted environment).filter (·.1 == name)).getLast?.map Prod.snd
  found.filter fun value => naming.missing != some (.whole value)

/-- Whether variables name parts of a field. -/
def hasParts (naming : Naming) (environment : Environment) (field : String) : Bool :=
  let start := naming.fold (naming.start ++ field) ++ naming.separator
  !naming.separator.isEmpty && (naming.counted environment).any (·.1.startsWith start)

/-- What the environment says about a field that has parts. Parts that are named by
    themselves make up an object. -/
def structured (naming : Naming) (environment : Environment) (field : String) :
    Except Failure (Option Given) :=
  match naming.value? environment field with
  | some text =>
    match Json.read (some Numeral.maxDigits) text.toList with
    | .ok .null => .ok none
    | .ok d => .ok (some (.ofDocument d))
    | .error _ => .error (.variable field)
  | none => .ok (if naming.hasParts environment field then some (.object []) else none)

/-- What the environment says about a field that has none. -/
def plain (naming : Naming) (environment : Environment) (field : String) : Option Given :=
  (naming.value? environment field).map Given.text

/-! ### Parameters -/

/-- The names under which a configuration file can say how settings are gathered. -/
def parameters : List String :=
  ["_case_sensitive", "_nested_model_default_partial_update", "_env_prefix",
   "_env_prefix_target", "_env_file", "_env_file_encoding", "_env_ignore_empty",
   "_env_nested_delimiter", "_env_nested_max_split", "_env_parse_none_str",
   "_env_parse_enums", "_cli_prog_name", "_cli_parse_args", "_cli_settings_source",
   "_cli_parse_none_str", "_cli_hide_none_type", "_cli_avoid_json", "_cli_enforce_required",
   "_cli_use_class_docs_for_groups", "_cli_exit_on_error", "_cli_prefix",
   "_cli_flag_prefix_char", "_cli_implicit_flags", "_cli_ignore_unknown_args",
   "_cli_kebab_case", "_cli_shortcuts", "_secrets_dir"]

/-- Whether a key is one of those names. -/
def isParameter (key : Atom) : Bool :=
  match key with
  | .text (.whole name) => parameters.contains name
  | _ => false

/-- The value of a parameter, if it is given. -/
def parameter? (entries : Given.Entries) (name : String) : Option Given :=
  match entries.named? name with
  | some (.atom .null) | none => none
  | some value => some value

/-- What the names of variables begin with, given the value of its parameter. -/
def startOf (fallback : String) : Option Given → Except Failure String
  | none => .ok fallback
  | some (.atom (.text value)) => .ok value.patched
  | some (.atom (.bytes _)) => .error (.variableName "reducers")
  | some (.atom value) => .error (.variableStart value.kind)
  | some _ => .error (.variableName "reducers")

/-- The separator, given the value of its parameter. -/
def separatorOf (fallback : String) : Option Given → String
  | none => fallback
  | some (.atom (.text value)) => value.patched
  | some _ => ""

/-- The value with which a variable counts as missing, given that of its parameter. -/
def missingOf : Option Given → Option Text.Raw
  | some (.atom (.text value)) => some value
  | _ => none

/-- The naming that a configuration file asks for. -/
def ofParameters (entries : Given.Entries) : Except Failure Naming := do
  let standard : Naming := {}
  let isSet := fun name => (parameter? entries name).any Given.isPresent
  return {
    start := ← startOf standard.start (parameter? entries "_env_prefix")
    separator := separatorOf standard.separator (parameter? entries "_env_nested_delimiter")
    matchesCase := isSet "_case_sensitive"
    ignoresEmpty := isSet "_env_ignore_empty"
    missing := missingOf (parameter? entries "_env_parse_none_str") }

end Naming

end UtxoBalance.Settings
