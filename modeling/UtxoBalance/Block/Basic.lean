import UtxoBalance.Bytes.Hex

/-!
# Blocks

A block is a list of transactions. A transaction creates outputs, each of which
puts an amount of coin at an address, and spends outputs of earlier transactions
through its inputs. An input names the output that it spends; it is resolved when
the block carries that output along.

## Main definitions

- `Output`, `Input`, `Transaction`, `Block`
- `Direction` — whether a block is applied or undone
- `Point` — the place of a block on its chain, as far as it is known
-/

namespace UtxoBalance

/-- An amount of coin at an address. -/
structure Output where
  /-- The octets of the address. -/
  address : Bytes
  /-- The amount. -/
  coin : Int
  deriving DecidableEq, Repr

/-- A reference to an output of an earlier transaction. -/
structure Input where
  /-- The hash of that transaction. -/
  txHash : Bytes := []
  /-- The place of the output in it. -/
  outputIndex : Int := 0
  /-- The output itself, where the block carries it along. -/
  spent : Option Output := none
  deriving DecidableEq, Repr

/-- Whether the output that an input spends is known. -/
def Input.isResolved (input : Input) : Bool := input.spent.isSome

/-- Outputs created and spent together. -/
structure Transaction where
  /-- The outputs created. -/
  outputs : List Output := []
  /-- The inputs. -/
  inputs : List Input := []
  /-- The hash of the transaction. -/
  hash : Bytes := []
  deriving DecidableEq, Repr

/-- A list of transactions, with what is known of its place on the chain. -/
structure Block where
  /-- The transactions in order. -/
  transactions : List Transaction := []
  /-- The slot. -/
  slot : Option Int := none
  /-- The hash, never empty. -/
  hash : Option Bytes := none
  /-- The height. -/
  height : Option Int := none
  deriving DecidableEq, Repr

/-- The place of a block on its chain, as events name it. -/
structure Point where
  /-- The slot. -/
  slot : Option Int
  /-- The hash in hexadecimal. -/
  hash : Option String
  deriving DecidableEq, Repr

/-- The place of a block. An empty hash counts as none. -/
def Block.point (block : Block) : Point :=
  { slot := block.slot
    hash := (block.hash.filter (!·.isEmpty)).map Hex.encode }

/-- Whether a block is applied or undone. -/
inductive Direction
  | apply | undo
  deriving DecidableEq, Repr

/-- The name of a direction. -/
def Direction.name : Direction → String
  | .apply => "apply"
  | .undo => "undo"

/-- The direction with a given name. -/
def Direction.ofName? (name : String) : Option Direction :=
  if name = "apply" then some .apply
  else if name = "undo" then some .undo
  else none

/-- The sign of an output's coin. -/
def Direction.outputSign : Direction → Int
  | .apply => 1
  | .undo => -1

/-- The sign of a spent output's coin. -/
def Direction.inputSign (direction : Direction) : Int := -direction.outputSign

end UtxoBalance
