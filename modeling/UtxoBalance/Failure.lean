import UtxoBalance.Address.Basic
import UtxoBalance.Block.FormatError
import UtxoBalance.Command.FormatError
import UtxoBalance.Settings.Issue
import UtxoBalance.Text.Utf8
import UtxoBalance.Yaml.Fault

/-!
# Failures

Everything that can end an operation of the library, by its cause.

## Main definitions

- `Accumulator.Consumed` — a use of an accumulator that has been finalized
- `Failure` — the causes
- `Failure.message` — their wording
-/

namespace UtxoBalance

/-- A use of an accumulator that has been finalized. -/
inductive Accumulator.Consumed
  /-- An amount was merged. -/
  | merge
  /-- It was finalized again. -/
  | finalize
  deriving DecidableEq, Repr

/-- The wording of a late use. -/
def Accumulator.Consumed.message : Accumulator.Consumed → String
  | .merge => "merge after finalize"
  | .finalize => "accumulator already finalized"

/-- What ends an operation. -/
inductive Failure
  /-- A byte string is no address. -/
  | address (error : Address.DecodeError)
  /-- An accumulator was used after it had been finalized. -/
  | consumed (late : Accumulator.Consumed)
  /-- A reducer has a name that is not registered among those known. -/
  | unknownReducer (name : Text.Raw) (known : List String)
  /-- A document is no block. -/
  | block (error : Block.FormatError)
  /-- A document is no command. -/
  | command (error : Command.FormatError)
  /-- Settings do not fit. -/
  | invalid (report : Settings.Invalid)
  /-- A value has another shape than an operation needs. -/
  | shape (fault : Fault)
  /-- A file is not in UTF-8. -/
  | encoding (fault : Utf8.Fault)
  /-- No address mode has this name. -/
  | unknownMode (name : String)
  /-- No direction has this name. -/
  | unknownDirection (name : String)
  /-- A text names no table. -/
  | badTable (text : Text.Raw)
  /-- A value of this kind names no table. -/
  | tableNotText (kind : String)
  /-- Rows are asked for and no table is named. -/
  | tableMissing
  /-- An integer is no octet. -/
  | octetRange
  /-- A staking credential has this length. -/
  | credentialLength (got : Nat)
  /-- The variable for a field of the pipeline settings holds no JSON text. -/
  | variable (field : String)
  /-- Variables have names that begin with a value of this kind. -/
  | variableStart (kind : String)
  /-- The name of the variable for a field of the pipeline settings cannot be told. -/
  | variableName (field : String)
  /-- A configuration file is refused. -/
  | file (fault : Yaml.Fault)
  /-- A configuration file holds a value of this kind in place of settings. -/
  | settingsKind (kind : String)
  /-- A configuration file names a setting by something else than a text. -/
  | settingName
  /-- A configuration file names what it sets by a word that is in use. -/
  | settingTwice (name : String)
  /-- A file cannot be read because it is a directory. -/
  | directory (path : String)
  /-- A path, or a part of it, is longer than any file's. -/
  | longPath (path : String)
  deriving DecidableEq, Repr

/-- The wording of a failure. -/
def Failure.message : Failure → String
  | .address error => error.message
  | .consumed late => late.message
  | .unknownReducer name known =>
    let list := ", ".intercalate known
    "reducer " ++ name.quoted ++ " not registered (known: " ++
      (if list.isEmpty then "none" else list) ++ ")"
  | .block error => error.message
  | .command error => error.message
  | .invalid report => report.summary
  | .shape fault => fault.message
  | .encoding fault => fault.message
  | .unknownMode name => Text.quoted name ++ " is not a valid AddressMode"
  | .unknownDirection name => Text.quoted name ++ " is not a valid Direction"
  | .badTable text => "invalid table identifier: " ++ text.quoted
  | .tableNotText kind => "expected string or bytes-like object, got '" ++ kind ++ "'"
  | .tableMissing => ""
  | .octetRange => "bytes must be in range(0, 256)"
  | .credentialLength got => "staking credential must be 28 bytes, got " ++ toString got
  | .variable field =>
    "error parsing value for field \"" ++ field ++ "\" from source \"EnvSettingsSource\""
  | .variableStart kind => "object of type '" ++ kind ++ "' has no len()"
  | .variableName field =>
    "error getting value for field \"" ++ field ++ "\" from source \"EnvSettingsSource\""
  | .file fault => fault.message
  | .settingsKind kind =>
    "ledger_reducers.core.config.PipelineConfig() argument after ** must be a mapping, not " ++
      kind
  | .settingName => "keywords must be strings"
  | .settingTwice name =>
    "BaseSettings.__init__() got multiple values for argument '" ++ name ++ "'"
  | .directory path => "[Errno 21] Is a directory: " ++ Text.quoted path
  | .longPath path => "[Errno 36] File name too long: " ++ Text.quoted path

/-- Whether a failure is one of the library's own errors about addresses, blocks,
    commands, reducers and accumulators. -/
def Failure.isOwn : Failure → Bool
  | .address _ | .consumed _ | .unknownReducer _ _ | .block _ | .command _ => true
  | _ => false

end UtxoBalance
