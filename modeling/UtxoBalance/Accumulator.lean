import UtxoBalance.Deltas
import UtxoBalance.Failure

/-!
# Accumulators

An accumulator gathers contributions from a caller whose amounts may have any
shape, and is finalized once: after that it is empty and takes nothing more.

A step that fails still has an effect. A contribution whose amount is no integer
leaves its key behind with an unchanged sum, and a list of contributions keeps
those that came before the one at fault. So each step gives the accumulator
afterwards beside its outcome.

## Main definitions

- `Accumulator` — the contributions so far
- `Accumulator.merge`, `Accumulator.mergeAll` — one contribution, or many
- `Accumulator.finalize` — the deltas, given out once
-/

namespace UtxoBalance

/-- Contributions gathered so far. -/
structure Accumulator where
  /-- The sums. -/
  deltas : Deltas := []
  /-- Whether it has been finalized. -/
  isConsumed : Bool := false
  deriving Repr

namespace Accumulator

/-- The number of keys. -/
def size (acc : Accumulator) : Nat := acc.deltas.length

/-- Whether a key has a sum. -/
def contains (acc : Accumulator) (key : String) : Bool := acc.deltas.contains key

/-- Adds a contribution. The key takes its place before the amount is read. -/
def merge (acc : Accumulator) (key : String) (amount : Document) :
    Accumulator × Except Failure Unit :=
  if acc.isConsumed then (acc, .error (.consumed .merge))
  else match amount.toAmount with
    | .ok n => ({ acc with deltas := acc.deltas.add key n }, .ok ())
    | .error fault => ({ acc with deltas := acc.deltas.add key 0 }, .error (.shape fault))

/-- Adds a contribution whose key may have any shape. -/
def mergeAt (acc : Accumulator) (key amount : Document) : Accumulator × Except Failure Unit :=
  if acc.isConsumed then (acc, .error (.consumed .merge))
  else match key.toName with
    | .ok name => acc.merge name amount
    | .error fault => (acc, .error (.shape fault))

/-- Adds the contributions of a list of pairs, up to the first at fault. -/
def mergePairs (acc : Accumulator) : List Document → Accumulator × Except Failure Unit
  | [] => (acc, .ok ())
  | item :: rest => match item.toPair with
    | .error fault => (acc, .error (.shape fault))
    | .ok (key, amount) => match acc.mergeAt key amount with
      | (after, .ok ()) => after.mergePairs rest
      | failed => failed

/-- Adds the contributions of a mapping, up to the first at fault. -/
def mergeFields (acc : Accumulator) : Fields → Accumulator × Except Failure Unit
  | [] => (acc, .ok ())
  | (key, amount) :: rest => match acc.merge key amount with
    | (after, .ok ()) => after.mergeFields rest
    | failed => failed

/-- Adds many contributions: those of a mapping, or of the pairs that any other value
    lists. -/
def mergeAll (acc : Accumulator) (contributions : Document) :
    Accumulator × Except Failure Unit :=
  match contributions with
  | .object fields => acc.mergeFields fields
  | _ => match contributions.elements with
    | .ok items => acc.mergePairs items
    | .error fault => (acc, .error (.shape fault))

/-- Gives out the deltas, the first time it is asked to. -/
def finalize (acc : Accumulator) : Accumulator × Except Failure Deltas :=
  if acc.isConsumed then (acc, .error (.consumed .finalize))
  else ({ deltas := [], isConsumed := true }, .ok acc.deltas)

end Accumulator

end UtxoBalance
