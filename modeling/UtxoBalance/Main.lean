import UtxoBalance.CommandLine.Run

/-!
# The program

Reads what a request asks for from the file system and the environment, and prints
the run.

## Main definitions

- `main` — answers the request on the command line
-/

namespace UtxoBalance.Program

/-- What is at a path. -/
def lookAt (path : String) : IO Found := do
  try
    return .file (← IO.FS.readBinFile path).toList
  catch
    | .noFileOrDirectory .. => return .nothing
    | .invalidArgument .. => return .tooLong
    | _ => return .directory

/-- The parts of a list between its zeros. -/
def partsAtZeros (octets : Bytes) : List Bytes :=
  octets.foldr (fun octet parts =>
    match parts with
    | part :: rest => if octet == 0 then [] :: part :: rest else (octet :: part) :: rest
    | [] => [[octet]]) [[]]

/-- The variable behind its name, an equals sign and its value. -/
def variableOf (octets : Bytes) : Option (String × String) := do
  let chars ← (Utf8.decode octets).toOption
  let name := chars.takeWhile (· != '=')
  if name.length == chars.length then none
  return (String.ofList name, String.ofList (chars.drop (name.length + 1)))

/-- The variables of the environment. -/
def readEnvironment : IO Settings.Environment := do
  try
    let octets ← IO.FS.readBinFile "/proc/self/environ"
    return (partsAtZeros octets.toList).filterMap variableOf
  catch _ => return []

/-- The paths that a request names, in normal form. -/
def requestPaths : Request → List String
  | .reduce _ block config => [Path.normal block, Path.normal config]
  | .inspect _ _ => []

/-- One event as a line. -/
def eventLine (format : Settings.LogFormat) (event : Event) : String :=
  match format with
  | .json => Json.write (.object (event.fields "level"))
  | .console =>
    "[" ++ event.level.name ++ "] " ++ event.name ++ " " ++ Json.write (.object event.data)

/-- Prints a run, and gives its exit code. -/
def printRun (run : Run) : IO UInt32 := do
  let stderr ← IO.getStderr
  for event in run.events do
    stderr.putStrLn (eventLine run.format event)
  (← IO.getStdout).putStr run.output
  match run.ending with
  | .done => pure ()
  | .reported message => stderr.putStrLn (Run.errorLine message)
  | .broken failure => stderr.putStrLn failure.message
  return UInt32.ofNat run.exitCode

/-- How the program is used. -/
def usage : String :=
  "usage: apply|undo BLOCK [-c CONFIG]\n" ++
    "       inspect-address HEX [-m payment|stake]"

/-- Answers the request on the command line. -/
def answer (arguments : List String) : IO UInt32 := do
  let found ← (Request.ofArguments arguments).elim (pure []) fun request =>
    (requestPaths request).mapM fun path => do return (path, ← lookAt path)
  match run arguments (fun path => (found.lookup path).getD .nothing) (← readEnvironment) with
  | some run => printRun run
  | none => do
    (← IO.getStderr).putStrLn usage
    return UInt32.ofNat Run.usageCode

end UtxoBalance.Program

/-- Answers the request on the command line. -/
def main (arguments : List String) : IO UInt32 :=
  UtxoBalance.Program.answer arguments
