import UtxoBalance.Block.Basic
import UtxoBalance.Failure

/-!
# Events

What an operation has to tell beside its result: what it skipped, and what it
did. An event has a level and a name, and data that is written as the fields of an
object.

## Main definitions

- `Level` — how much an event matters
- `Event` — the events
- `Event.level`, `Event.name`, `Event.fields` — what is written of an event
-/

namespace UtxoBalance

/-- How much an event matters. -/
inductive Level
  | debug | info | warning | error
  deriving DecidableEq, Repr

namespace Level

/-- The name of a level in an event. -/
def name : Level → String
  | .debug => "debug"
  | .info => "info"
  | .warning => "warning"
  | .error => "error"

/-- The place of a level among the levels. -/
def rank : Level → Nat
  | .debug => 10
  | .info => 20
  | .warning => 30
  | .error => 40

end Level

/-- What a reduction of a block did. -/
structure BlockSummary where
  /-- The name of the reducer. -/
  reducer : String
  /-- Whether the block was applied or undone. -/
  direction : Direction
  /-- The balances that were kept. -/
  mode : Address.Mode
  /-- The name of the kind of store. -/
  backend : String
  /-- The number of keys that were touched. -/
  keys : Nat
  /-- The number of commands that were given. -/
  commands : Nat
  /-- The number of items without a key. -/
  excluded : Nat
  /-- The number of items without an address. -/
  decodeErrors : Nat
  /-- The place of the block. -/
  point : Point
  deriving DecidableEq, Repr

/-- What an operation has to tell. -/
inductive Event
  /-- A composition has this many reducers. -/
  | reducersComposed (count : Nat)
  /-- A block has inputs whose outputs are not known. -/
  | unresolvedSkipped (count : Nat) (mode : Address.Mode) (direction : Direction) (point : Point)
  /-- An output was passed over because its address could not be decoded. -/
  | addressFailed (error : Address.DecodeError) (mode : Address.Mode)
  /-- A block was reduced. -/
  | blockReduced (summary : BlockSummary)
  /-- The settings at this path name no reducer. -/
  | noReducers (path : String)
  deriving DecidableEq, Repr

/-- The place of a block as fields of an event. -/
def Point.fields (point : Point) : Fields :=
  [("slot", point.slot.elim .null .int), ("hash", point.hash.elim .null .text)]

namespace Event

/-- The level of an event. -/
def level : Event → Level
  | .reducersComposed _ | .blockReduced _ => .debug
  | .unresolvedSkipped .. | .addressFailed .. | .noReducers _ => .warning

/-- The name of an event. -/
def name : Event → String
  | .reducersComposed _ => "reducers_composed"
  | .unresolvedSkipped .. => "unresolved_inputs_skipped"
  | .addressFailed .. => "address_decode_failed"
  | .blockReduced _ => "block_reduced"
  | .noReducers _ => "no_reducers_configured"

/-- The data of an event. -/
def data : Event → Fields
  | .reducersComposed count => [("count", .int count)]
  | .unresolvedSkipped count mode direction point =>
    [("count", .int count), ("mode", .text mode.name), ("direction", .text direction.name)] ++
      point.fields
  | .addressFailed error mode =>
    [("address", .text (Hex.encode error.raw)), ("reason", .text error.reason.message),
      ("mode", .text mode.name)]
  | .blockReduced s =>
    [("reducer", .text s.reducer), ("direction", .text s.direction.name),
      ("mode", .text s.mode.name), ("backend", .text s.backend), ("keys", .int s.keys),
      ("commands", .int s.commands), ("excluded", .int s.excluded),
      ("decode_errors", .int s.decodeErrors)] ++ s.point.fields
  | .noReducers path => [("config", .text path)]

/-- An event as the fields of an object, with its level under the given name. -/
def fields (event : Event) (levelField : String) : Fields :=
  event.data ++ [("event", .text event.name), (levelField, .text event.level.name)]

end Event

end UtxoBalance
