import UtxoBalance.Document.Fault

/-!
# Errors of command documents

Why a document describes no command, or why what should be written as one is no
command.

## Main definitions

- `Command.FormatError` — the errors and their wording
-/

namespace UtxoBalance.Command

/-- Why a document is no command. -/
inductive FormatError
  /-- It is no object. -/
  | notObject
  /-- A field that its kind of command needs is missing. -/
  | missingField (tag field : String)
  /-- The key of a counter command is no text. -/
  | keyNotText
  /-- The statement of an SQL command is no text. -/
  | sqlNotText
  /-- A field has a value of the wrong shape. -/
  | badValue (tag : String) (fault : Fault)
  /-- No kind of command has this tag. -/
  | unknownTag (shown : String)
  /-- A value of this kind is no command. -/
  | notCommand (kind : String)
  deriving DecidableEq, Repr

/-- The wording of an error. -/
def FormatError.message : FormatError → String
  | .notObject => "expected a JSON object"
  | .missingField tag field => tag ++ ": missing field " ++ Text.quoted field
  | .keyNotText => "PNCounter key must be a string"
  | .sqlNotText => "ExecuteSQL sql must be a string"
  | .badValue tag fault => tag ++ ": invalid value: " ++ fault.message
  | .unknownTag shown => "unknown command " ++ shown
  | .notCommand kind => "unsupported command type " ++ kind

end UtxoBalance.Command
