import UtxoBalance.Settings.Entry

/-!
# Reducing a block

A reducer walks a block and turns the deltas into commands.

## Main definitions

- `Reducer` — a reducer with its settings
- `Reducer.reduce` — the commands for a block
-/

namespace UtxoBalance

/-- A reducer of balances by address. -/
structure Reducer where
  /-- Its settings. -/
  settings : Settings.Reduction
  deriving DecidableEq, Repr

namespace Reducer

/-- What a reduction did, once its commands are known. -/
def summary (reducer : Reducer) (block : Block) (direction : Direction) (tally : Walk.Tally)
    (commands : List Command) : BlockSummary :=
  { reducer := Settings.Entry.balanceByAddress
    direction
    mode := reducer.settings.mode
    backend := reducer.settings.resolvedBackend.name
    keys := tally.deltas.length
    commands := commands.length
    excluded := tally.stats.excluded
    decodeErrors := tally.stats.decodeErrors
    point := block.point }

/-- The commands for a block, with an event once they are known. -/
def reduce (reducer : Reducer) (block : Block) (direction : Direction) :
    Logged (List Command) := do
  let tally ← reducer.settings.walker.walk block direction
  let commands ← Logged.lift (reducer.settings.emitter.emit tally.deltas)
  Logged.tell (.blockReduced (reducer.summary block direction tally commands))
  return commands

end Reducer

/-- The commands for a block under settings that may have any shape. -/
def reduceBlock (block : Block) (settings : Document) (direction : Direction) :
    Logged (List Command) := do
  let settings ← Logged.lift (Settings.Reduction.ofValue settings)
  Reducer.reduce { settings } block direction

end UtxoBalance
