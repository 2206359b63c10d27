import UtxoBalance.Command.Basic
import UtxoBalance.Deltas
import UtxoBalance.Table

/-!
# Emitters

An emitter turns deltas into commands for one of two kinds of store: replicated
counters, one per key and each under a keyspace if there is one, or the rows of
a table, all in one statement, followed by a statement that deletes the rows
which come to zero. Keys come in their order, whatever the order of the deltas.

## Main definitions

- `Emitter` — the two kinds
- `Emitter.ofTable` — rows of a table whose name has not been checked
- `Emitter.emit` — the commands for deltas
- `Emitter.emitAmounts` — the commands for amounts of any shape
-/

namespace UtxoBalance

/-- A kind of store, and how it is reached. -/
inductive Emitter
  /-- Replicated counters under a keyspace. -/
  | counters (keyspace : Option String)
  /-- The rows of a table. -/
  | rows (table : String)
  deriving DecidableEq, Repr

namespace Emitter

/-- The name of a counter: an empty keyspace counts as none. -/
def counterKey (keyspace : Option String) (key : String) : String :=
  match keyspace with
  | none => key
  | some name => if name.isEmpty then key else name ++ "." ++ key

/-- The rows of the table that a value names. A line feed may follow the name. -/
def ofTable : Document → Except Failure Emitter
  | .text table =>
    if Table.isNameLine table then .ok (.rows table) else .error (.badTable (.whole table))
  | .brokenText points => .error (.badTable (.broken points))
  | d => .error (.tableNotText d.kind)

/-- The counter command for one entry. -/
def emitCounter {α : Type} (read : α → Except Failure Int) (keyspace : Option String)
    (entry : String × α) : Except Failure Command := do
  let amount ← read entry.2
  let value ← (Numeral.write amount).mapError fun fault => .shape (.numeral fault)
  return .counter (counterKey keyspace entry.1) value

/-- The commands for entries that are in the order of their keys. -/
def emitSorted {α : Type} (read : α → Except Failure Int) (emitter : Emitter)
    (entries : List (String × α)) : Except Failure (List Command) :=
  match emitter with
  | .counters keyspace => entries.mapM (emitCounter read keyspace)
  | .rows table =>
    if entries.isEmpty then .ok []
    else do
      let keys : Document := .list (entries.map fun entry => .text entry.1)
      let amounts ← entries.mapM fun entry => read entry.2
      return [.statement (Table.upsert table) [keys, .list (amounts.map .int)],
        .statement (Table.cleanup table) [keys]]

/-- The commands for deltas. -/
def emit (emitter : Emitter) (deltas : Deltas) : Except Failure (List Command) :=
  emitter.emitSorted .ok (Deltas.sorted deltas)

/-- The commands for amounts that are read from values of any shape. -/
def emitAmounts (emitter : Emitter) (amounts : Fields) : Except Failure (List Command) :=
  emitter.emitSorted (fun d => d.toAmount.mapError .shape) (Deltas.sorted amounts)

end Emitter

end UtxoBalance
