import UtxoBalance.Composition
import UtxoBalance.Json.Reader
import UtxoBalance.Text.Lines
import UtxoBalance.Settings.Environment
import UtxoBalance.Yaml.Value

/-!
# Settings of a pipeline

A pipeline is a list of entries, with the level and the format of the log. Its
settings come from a YAML file and from environment variables; what the file says
counts more. In both the fields are named in either case; of several spellings in the
file the first counts. The file can also say how the variables are named.

## Main definitions

- `Settings.Pipeline` — the settings
- `Settings.Pipeline.ofEntries` — the settings behind the entries of an object
- `Settings.fileEntries` — what a file says
- `Settings.Pipeline.ofFile`, `Settings.Pipeline.ofEnvironment` — the settings of a run
-/

namespace UtxoBalance.Settings

/-- How the log is written. -/
inductive LogFormat
  /-- For a reader. -/
  | console
  /-- One JSON object per line. -/
  | json
  deriving DecidableEq, Repr

/-- The name of a format. -/
def LogFormat.name : LogFormat → String
  | .console => "console"
  | .json => "json"

/-- The name of a level in settings. -/
def levelName : Level → String
  | .debug => "DEBUG"
  | .info => "INFO"
  | .warning => "WARNING"
  | .error => "ERROR"

/-- The settings of a pipeline. -/
structure Pipeline where
  /-- The entries of the composition. -/
  entries : List Entry := []
  /-- The least level that is logged. -/
  logLevel : Level := .info
  /-- How the log is written. -/
  logFormat : LogFormat := .console
  deriving DecidableEq, Repr

namespace Pipeline

/-- What these settings are called in reports. -/
def title : String := "PipelineConfig"

/-- The names of the levels. -/
def levels : List (String × Level) :=
  [Level.debug, .info, .warning, .error].map fun level => (levelName level, level)

/-- The names of the formats. -/
def formats : List (String × LogFormat) :=
  [LogFormat.console, .json].map fun format => (format.name, format)

/-- The checks of the items of a list, the first of which stands at `index`. -/
def checksFrom : (index : Nat) → List Given → List (Checked Entry)
  | _, [] => []
  | index, item :: rest =>
    (Entry.check item).inside (.index index) :: checksFrom (index + 1) rest

/-- A list of entries. -/
def checkEntries (given : Given) : Checked (List Entry) := do
  Checked.all (checksFrom 0 (← itemsOf given))

/-- The names of the fields. -/
def fields : List String := ["reducers", "log_level", "log_format"]

/-- The settings behind the entries of an object. -/
def ofEntries (entries : Given.Entries) : Checked Pipeline := do
  let ((reducers, logLevel, logFormat), ()) ←
    ((optional [] checkEntries entries "reducers").also <|
      (optional .info (oneOf levels) entries "log_level").also <|
      optional .console (oneOf formats) entries "log_format").also
        (extras fields entries)
  return { entries := reducers, logLevel, logFormat }

end Pipeline

/-! ### The environment -/

/-- What the environment says. -/
def environmentEntries (naming : Naming) (environment : Environment) :
    Except Failure Given.Entries := do
  let reducers ← naming.structured environment "reducers"
  let found := [("reducers", reducers), ("log_level", naming.plain environment "log_level"),
    ("log_format", naming.plain environment "log_format")]
  return found.filterMap fun (name, value?) =>
    value?.map fun value => (.text (.whole name), value)

/-! ### Files -/

/-- How deep settings are nested: entries, their list, one of them, its settings, and
    one of those. -/
def depth : Nat := 5

/-- Whether a key is a text. -/
def isText : Atom → Bool
  | .text _ => true
  | _ => false

/-- A word under which nothing can be set. -/
def reservedName : String := "__pydantic_self__"

/-- The entries of the value of a file, whose keys have to be texts. What does not count
    as given has none. -/
def fileEntries : Given → Except Failure Given.Entries
  | .object entries =>
    if !entries.all fun (key, _) => isText key then .error .settingName
    else if (Given.Entries.named? entries reservedName).isSome then .error (.settingTwice reservedName)
    else .ok entries
  | given => if given.isPresent then .error (.settingsKind given.kind) else .ok []

/-- The value behind the octets of a file. -/
def readFile (octets : Bytes) : Except Failure Given := do
  let chars ← (Utf8.decode octets).mapError .encoding
  (Yaml.read depth (Text.unifyNewlines chars)).mapError .file

/-- Whether a key is the name of a field, in either case. -/
def isSpelling (field : String) (key : Atom) : Bool :=
  match key with
  | .text (.whole name) => Text.lower name == field
  | _ => false

/-- The entries with the fields under their own names: of several spellings of a field
    the first counts. -/
def respelled (entries : Given.Entries) : Given.Entries :=
  let named := Pipeline.fields.filterMap fun field =>
    (entries.find? fun (key, _) => isSpelling field key).map fun (_, value) =>
      (.text (.whole field), value)
  named ++ entries.filter fun (key, _) => !Pipeline.fields.any (isSpelling · key)

namespace Pipeline

/-- The settings behind the entries of a file and the environment; an entry of the file
    counts more. -/
def ofSources (file : Given.Entries) (environment : Environment) : Except Failure Pipeline := do
  let (parameters, given) := file.partition fun (key, _) => Naming.isParameter key
  let naming ← Naming.ofParameters parameters
  let own := respelled given
  let others := (← environmentEntries naming environment).filter fun (key, _) =>
    (own.lookup key).isNone
  (ofEntries (own ++ others)).mapError fun issues => .invalid { model := title, issues }

/-- The settings behind the octets of a file and the environment. -/
def ofFile (octets : Bytes) (environment : Environment) : Except Failure Pipeline := do
  ofSources (← fileEntries (← readFile octets)) environment

/-- The settings behind the environment alone. -/
def ofEnvironment (environment : Environment) : Except Failure Pipeline :=
  ofSources [] environment

end Pipeline

end UtxoBalance.Settings
