import UtxoBalance.Failure

/-!
# Commands

A command tells a store what to change: it adds to a replicated counter, or runs
an SQL statement with parameters. A command has a document form with its tag
under `command`. Integers in the arrays among a statement's parameters are
written there as decimal numerals, so that a reader with narrow numbers keeps
them whole.

The key of a counter and the statement of a command that is read may be any text
of a document, one with halves of surrogate pairs as well. Reducers give commands
whose texts are made of characters.

## Main definitions

- `Command` — the commands over a type of texts
- `Command.raw` — a command whose texts are made of characters, as one that is read
- `Command.Draft` — a command whose parts have not been checked
- `Command.toDocument` — the document form
- `Command.ofDocument` — the command behind a document
-/

namespace UtxoBalance

/-- A change to a store. -/
inductive Command (α : Type := String)
  /-- Adds an amount, given as a decimal numeral, to the counter of a key. -/
  | counter (key : α) (value : String)
  /-- Runs an SQL statement. -/
  | statement (sql : α) (params : List Document)
  deriving Inhabited

namespace Command

/-- A command whose texts are made of characters, as one that is read. -/
def raw : Command → Command Text.Raw
  | .counter key value => .counter (.whole key) value
  | .statement sql params => .statement (.whole sql) params

/-- The tag of a counter command. -/
def counterTag : String := "PNCounter"

/-- The tag of a statement command. -/
def statementTag : String := "ExecuteSQL"

/-- A command whose parts have not been checked. -/
inductive Draft
  /-- A counter command with any key and value. -/
  | counter (key value : Document)
  /-- A statement command with any text, and the parameters that a value lists. -/
  | statement (sql params : Document)
  /-- A value that is no command at all. -/
  | other (value : Document)

/-- A command as a draft. -/
def toDraft : Command Text.Raw → Draft
  | .counter key value => .counter (.ofRaw key) (.text value)
  | .statement sql params => .statement (.ofRaw sql) (.list params)

/-- An item of an array among the parameters: integers and truth values become
    texts. -/
def writeItem : Document → Except Numeral.Fault Document
  | .int value => Document.text <$> Numeral.write value
  | .bool value => .ok (.text (if value then "True" else "False"))
  | d => .ok d

/-- A parameter: the items of an array are written one by one. -/
def writeParam : Document → Except Numeral.Fault Document
  | .list items => Document.list <$> items.mapM writeItem
  | d => .ok d

/-- The document form of a draft. -/
def Draft.toDocument : Draft → Except Failure Document
  | .counter key value =>
    .ok (.object [("command", .text counterTag), ("key", key), ("value", value)])
  | .statement sql params => do
    let items ← params.elements.mapError .shape
    let written ← (items.mapM writeParam).mapError fun fault => .shape (.numeral fault)
    return .object [("command", .text statementTag), ("sql", sql), ("params", .list written)]
  | .other value => .error (.command (.notCommand value.kind))

/-- The document form of a command. -/
def toDocument (command : Command Text.Raw) : Except Failure Document :=
  command.toDraft.toDocument

/-- A field that a kind of command needs. -/
def need (tag : String) (fields : Fields) (name : String) : Except Failure Document :=
  match fields.lookup name with
  | some value => .ok value
  | none => .error (.command (.missingField tag name))

/-- The text that a field holds. -/
def asText (error : FormatError) (value : Document) : Except Failure Text.Raw :=
  match value.raw? with
  | some text => .ok text
  | none => .error (.command error)

/-- A fault in a field of a command. That an infinity has no integer part is not
    reported as an error of the command. -/
def badValue (tag : String) : Fault → Failure
  | .infinite => .shape .infinite
  | fault => .command (.badValue tag fault)

/-- The counter command behind the fields of a document. -/
def readCounter (fields : Fields) : Except Failure (Command Text.Raw) := do
  let key ← need counterTag fields "key"
  let amount ← need counterTag fields "value"
  let key ← asText .keyNotText key
  let n ← amount.toAmount.mapError (badValue counterTag)
  let value ← (Numeral.write n).mapError fun fault => badValue counterTag (.numeral fault)
  return .counter key value

/-- The statement command behind the fields of a document. Parameters that do not
    count as given are none. -/
def readStatement (fields : Fields) : Except Failure (Command Text.Raw) := do
  let sql ← need statementTag fields "sql"
  let sql ← asText .sqlNotText sql
  let params := Document.field fields "params"
  if params.isPresent then
    let items ← params.elements.mapError (badValue statementTag)
    return .statement sql items
  else return .statement sql []

/-- The command behind a document. -/
def ofDocument : Document → Except Failure (Command Text.Raw)
  | .object fields => do
    let tag := Document.field fields "command"
    match tag with
    | .text "PNCounter" => readCounter fields
    | .text "ExecuteSQL" => readStatement fields
    | _ => match tag.shown with
      | .ok shown => throw (.command (.unknownTag shown))
      | .error fault => throw (.shape (.numeral fault))
  | _ => .error (.command .notObject)

end Command

end UtxoBalance
