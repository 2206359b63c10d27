import UtxoBalance.Address.Key
import UtxoBalance.Block.Basic

/-!
# Requests on the command line

The command line names one of three commands, the argument it needs, and perhaps an
option with a value. Options may stand before or after the argument; two dashes end
them, also where none is given. Of an option that is given more than once the last value counts.

## Main definitions

- `Request` — what is asked for
- `Request.ofArguments` — the request behind the arguments
-/

namespace UtxoBalance

/-- What is asked for. -/
inductive Request
  /-- The commands for a block. -/
  | reduce (direction : Direction) (block config : String)
  /-- The key of an address in hexadecimal. -/
  | inspect (address : String) (mode : Address.Mode)
  deriving DecidableEq, Repr

namespace Request

/-- An option of a command, which takes a value. -/
structure Flag where
  /-- Its name behind two dashes. -/
  long : String
  /-- Its letter behind one dash. -/
  letter : Char
  deriving DecidableEq, Repr

/-- What an argument is. -/
inductive Argument
  /-- Not an option. -/
  | positional
  /-- The option, whose value is the next argument. -/
  | bare
  /-- The option together with its value. -/
  | attached (value : String)
  /-- An option that does not exist. -/
  | unknown
  deriving DecidableEq, Repr

/-- What an argument is to a command with a given option. The value of a long option
    stands behind an equals sign, that of a letter at once behind it. -/
def Flag.classify (flag : Flag) (argument : String) : Argument :=
  let long := '-' :: '-' :: flag.long.toList
  match argument.toList with
  | '-' :: c :: rest =>
    if '-' :: c :: rest = long then .bare
    else if (long ++ ['=']).isPrefixOf ('-' :: c :: rest) then
      .attached (String.ofList (('-' :: c :: rest).drop (long.length + 1)))
    else if c = flag.letter then
      (if rest.isEmpty then .bare else .attached (String.ofList rest))
    else .unknown
  | _ => .positional

/-- The positional arguments and the values of the option, both in order. -/
def scan (flag : Flag) : List String → Option (List String × List String)
  | [] => some ([], [])
  | "--" :: rest => some (rest, [])
  | argument :: rest =>
    match flag.classify argument with
    | .positional => (scan flag rest).map fun (args, values) => (argument :: args, values)
    | .attached value => (scan flag rest).map fun (args, values) => (args, value :: values)
    | .bare =>
      match rest with
      | value :: rest => (scan flag rest).map fun (args, values) => (args, value :: values)
      | [] => none
    | .unknown => none

/-- The one positional argument, and the value of the option if it is given. -/
def argumentAndOption (flag : Flag) (arguments : List String) :
    Option (String × Option String) :=
  match scan flag arguments with
  | some ([argument], values) => some (argument, values.getLast?)
  | _ => none

/-- The option with the path of the settings. -/
def configFlag : Flag := ⟨"config", 'c'⟩

/-- The option with the mode of an address. -/
def modeFlag : Flag := ⟨"mode", 'm'⟩

/-- The path of the settings where none is given. -/
def defaultConfig : String := "reducers.yaml"

/-- The request to reduce a block. -/
def reduceRequest (direction : Direction) (arguments : List String) : Option Request :=
  (argumentAndOption configFlag arguments).map fun (block, config?) =>
    .reduce direction block (config?.getD defaultConfig)

/-- The request to inspect an address. -/
def inspectRequest (arguments : List String) : Option Request := do
  let (address, modeName?) ← argumentAndOption modeFlag arguments
  let mode ← Address.Mode.ofName? (modeName?.getD Address.Mode.payment.name)
  return .inspect address mode

/-- The request that begins with the name of a command. -/
def ofCommand : List String → Option Request
  | "apply" :: rest => reduceRequest .apply rest
  | "undo" :: rest => reduceRequest .undo rest
  | "inspect-address" :: rest => inspectRequest rest
  | _ => none

/-- The request behind the arguments, if there is one. Two dashes may stand in front of
    the command. -/
def ofArguments : List String → Option Request
  | "--" :: rest => ofCommand rest
  | arguments => ofCommand arguments

end Request

end UtxoBalance
