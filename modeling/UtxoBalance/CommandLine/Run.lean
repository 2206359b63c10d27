import UtxoBalance.Block.Reader
import UtxoBalance.CommandLine.Path
import UtxoBalance.CommandLine.Request
import UtxoBalance.Json.Writer
import UtxoBalance.Settings.Pipeline
import UtxoBalance.Text.Terminal

/-!
# Runs of the program

A run answers one request from what it finds at two paths and in the environment. It
ends well, or with an error that it reports, or it breaks on a failure that it does
not report.

Commands are written one by one, so those before one that cannot be written have been
printed when a run breaks.

## Main definitions

- `Found` — what is at a path
- `Run` — what a run prints, logs, and how it ends
- `Request.run` — the run of a request
- `run` — the run of a command line
-/

namespace UtxoBalance

/-- What is at a path. -/
inductive Found
  /-- Nothing. -/
  | nothing
  /-- A directory. -/
  | directory
  /-- Nothing that there could be: the path, or a part of it, is too long. -/
  | tooLong
  /-- A file with these octets. -/
  | file (octets : Bytes)
  deriving DecidableEq, Repr

/-- How a run ends. -/
inductive Ending
  /-- Well. -/
  | done
  /-- With an error that is reported. -/
  | reported (message : String)
  /-- With a failure that is not. -/
  | broken (failure : Failure)

/-- What a run prints, logs, and how it ends. -/
structure Run where
  /-- The text on standard output. -/
  output : String := ""
  /-- The events that are logged. -/
  events : List Event := []
  /-- How they are written. -/
  format : Settings.LogFormat := .console
  /-- How the run ends. -/
  ending : Ending := .done

namespace Run

/-- The exit code of a command line that makes no request. -/
def usageCode : Nat := 2

/-- The exit code of a run. -/
def exitCode (run : Run) : Nat :=
  match run.ending with
  | .done => 0
  | _ => 1

/-- The line that reports an error, which does not control a terminal. -/
def errorLine (message : String) : String := Text.withoutControls ("error: " ++ message)

end Run

/-- How a run ends on a failure: errors of the library itself and settings that do not
    fit are reported. -/
def Ending.ofFailure (failure : Failure) : Ending :=
  match failure with
  | .invalid _ => .reported failure.message
  | _ => if failure.isOwn then .reported failure.message else .broken failure

/-- The line for a command. -/
def Command.line (command : Command) : Except Failure String := do
  return Json.write (← command.raw.toDocument) ++ "\n"

/-- The lines for some commands, up to the first that cannot be written. -/
def writeCommands : List Command → String × Ending
  | [] => ("", .done)
  | command :: rest =>
    match command.line with
    | .error failure => ("", .ofFailure failure)
    | .ok line =>
      let (more, ending) := writeCommands rest
      (line ++ more, ending)

/-- The settings at a path and in the environment; without a file the environment
    alone counts. -/
def settingsAt (look : String → Found) (environment : Settings.Environment) (path : String) :
    Except Failure Settings.Pipeline :=
  match look path with
  | .nothing => Settings.Pipeline.ofEnvironment environment
  | .directory => .error (.directory path)
  | .tooLong => .error (.longPath path)
  | .file octets => Settings.Pipeline.ofFile octets environment

/-- The commands for a block in a file, with an event if the settings name no
    reducer. -/
def reduceFile (settings : Settings.Pipeline) (config block : String) (octets : Bytes)
    (direction : Direction) : Logged (List Command) := do
  if settings.entries.isEmpty then
    Logged.tell (.noReducers config)
  let composition ← Composition.ofCandidates knownReducers (settings.entries.map .entry)
  let block ← Logged.lift (Block.ofFile block octets)
  composition.reduce block direction

/-- The run that reduces the block in a file. -/
def runReduce (look : String → Found) (environment : Settings.Environment)
    (direction : Direction) (block config : String) (octets : Bytes) : Run :=
  match settingsAt look environment config with
  | .error failure => { ending := .ofFailure failure }
  | .ok settings =>
    let result := reduceFile settings config block octets direction
    let events := result.events.filter fun event =>
      settings.logLevel.rank ≤ event.level.rank
    let (output, ending) := match result.outcome with
      | .ok commands => writeCommands commands
      | .error failure => ("", .ofFailure failure)
    { output, events, format := settings.logFormat, ending }

/-- A text without the mark of hexadecimal text in front of it. -/
def withoutHexMark (text : String) : String :=
  match text.toList with
  | '0' :: 'x' :: rest => String.ofList rest
  | _ => text

/-- The run that shows the kind and the key of an address. -/
def runInspect (address : String) (mode : Address.Mode) : Run :=
  match Hex.decode (withoutHexMark address) with
  | .error _ => { ending := .reported ("not a hex string: " ++ address) }
  | .ok raw =>
    let shown : Except Address.DecodeError String := do
      let kind ← Address.classify raw
      let key? ← Address.key raw mode
      return "kind: " ++ kind.name ++ "\nkey: " ++ key?.getD "excluded" ++ "\n"
    match shown with
    | .ok output => { output }
    | .error error => { ending := .reported error.message }

/-- The run of a request. A block has to be in a file; without one there is no run. -/
def Request.run (request : Request) (look : String → Found)
    (environment : Settings.Environment) : Option Run :=
  match request with
  | .inspect address mode => some (runInspect address mode)
  | .reduce direction block config =>
    if !Path.isPath block || !Path.isPath config then none
    else
      match look (Path.normal block) with
      | .file octets =>
        some (runReduce look environment direction (Path.normal block) (Path.normal config)
          octets)
      | _ => none

/-- The run of a command line, given what is at each path in normal form. -/
def run (arguments : List String) (look : String → Found)
    (environment : Settings.Environment) : Option Run := do
  (← Request.ofArguments arguments).run look environment

end UtxoBalance
