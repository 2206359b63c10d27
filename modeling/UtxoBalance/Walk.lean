import UtxoBalance.Address.Key
import UtxoBalance.Deltas
import UtxoBalance.Logged

/-!
# Walks

A walk visits the items of a block — the outputs that it creates and the outputs
that it spends, as far as they are known — and adds up their coins by key. What is
created counts with one sign and what is spent with the other, and undoing a block
swaps the two.

An address that cannot be decoded ends a strict walk; a lenient walk tells of it
and goes on. An address without a key is passed over by both, and so is a spent
output that is not known.

## Main definitions

- `Walk.Item`, `Block.items` — what a walk visits, in order
- `Walk.Stats` — what a walk counts
- `Walk.Tally` — what a walk has gathered
- `Walker`, `Walker.walk` — a walk of a block
-/

namespace UtxoBalance

/-- What to do about an address that cannot be decoded. -/
inductive Policy
  | strict | lenient
  deriving DecidableEq, Repr

/-- The name of a policy. -/
def Policy.name : Policy → String
  | .strict => "strict"
  | .lenient => "lenient"

namespace Walk

/-- What a walk visits. -/
inductive Item
  /-- An output that is created. -/
  | created (output : Output)
  /-- An output that is spent. -/
  | spent (output : Output)
  /-- A spent output that is not known. -/
  | unresolved
  deriving DecidableEq, Repr

/-- What a walk counts. -/
structure Stats where
  /-- Transactions. -/
  transactions : Nat := 0
  /-- Outputs created. -/
  outputs : Nat := 0
  /-- Outputs spent that are known. -/
  resolvedInputs : Nat := 0
  /-- Outputs spent that are not known. -/
  unresolvedInputs : Nat := 0
  /-- Items whose address has no key. -/
  excluded : Nat := 0
  /-- Items whose address cannot be decoded. -/
  decodeErrors : Nat := 0
  deriving DecidableEq, Repr

/-- What a walk has gathered. -/
structure Tally where
  /-- The amounts by key. -/
  deltas : Deltas := []
  /-- The counts. -/
  stats : Stats := {}
  deriving DecidableEq, Repr

end Walk

/-- What a walk visits at an input. -/
def Input.item (input : Input) : Walk.Item :=
  input.spent.elim .unresolved .spent

/-- What a walk visits in a transaction: outputs, then inputs. -/
def Transaction.items (tx : Transaction) : List Walk.Item :=
  tx.outputs.map .created ++ tx.inputs.map Input.item

/-- What a walk visits in a block. -/
def Block.items (block : Block) : List Walk.Item :=
  block.transactions.flatMap Transaction.items

/-- A way to walk blocks. -/
structure Walker where
  /-- The balances that are kept. -/
  mode : Address.Mode
  /-- What to do about an address that cannot be decoded. -/
  policy : Policy
  deriving DecidableEq, Repr

namespace Walker

open Walk

/-- Adds an output's coin, with a sign, under the key of its address. -/
def merge (walker : Walker) (sign : Int) (output : Output) (tally : Tally) : Logged Tally :=
  match Address.key output.address walker.mode, walker.policy with
  | .ok (some key), _ => pure { tally with deltas := tally.deltas.add key (sign * output.coin) }
  | .ok none, _ =>
    pure { tally with stats.excluded := tally.stats.excluded + 1 }
  | .error error, .strict => .fail (.address error)
  | .error error, .lenient => do
    .tell (.addressFailed error walker.mode)
    return { tally with stats.decodeErrors := tally.stats.decodeErrors + 1 }

/-- Visits one item. -/
def visit (walker : Walker) (direction : Direction) (tally : Tally) : Item → Logged Tally
  | .created output =>
    walker.merge direction.outputSign output
      { tally with stats.outputs := tally.stats.outputs + 1 }
  | .spent output =>
    walker.merge direction.inputSign output
      { tally with stats.resolvedInputs := tally.stats.resolvedInputs + 1 }
  | .unresolved =>
    pure { tally with stats.unresolvedInputs := tally.stats.unresolvedInputs + 1 }

/-- Visits the items of a list in order. -/
def visitAll (walker : Walker) (direction : Direction) (tally : Tally) :
    List Item → Logged Tally
  | [] => pure tally
  | item :: rest => do
    let after ← walker.visit direction tally item
    walker.visitAll direction after rest

/-- Visits one transaction: it is counted, and then its items are visited. -/
def visitTransaction (walker : Walker) (direction : Direction) (tally : Tally)
    (tx : Transaction) : Logged Tally :=
  walker.visitAll direction
    { tally with stats.transactions := tally.stats.transactions + 1 } tx.items

/-- Visits the transactions of a list in order. -/
def visitTransactions (walker : Walker) (direction : Direction) (tally : Tally) :
    List Transaction → Logged Tally
  | [] => pure tally
  | tx :: rest => do
    let after ← walker.visitTransaction direction tally tx
    walker.visitTransactions direction after rest

/-- Walks a block. Where spent outputs are not known, one event tells how many. -/
def walk (walker : Walker) (block : Block) (direction : Direction) : Logged Tally := do
  let tally ← walker.visitTransactions direction {} block.transactions
  let skipped := tally.stats.unresolvedInputs
  if 0 < skipped then
    .tell (.unresolvedSkipped skipped walker.mode direction block.point)
  return tally

end Walker

end UtxoBalance
