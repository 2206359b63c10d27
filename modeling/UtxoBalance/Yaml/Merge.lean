import UtxoBalance.Yaml.Fault
import UtxoBalance.Yaml.Graph

/-!
# Merged mappings

An entry of a mapping whose key is marked for merging is replaced by the entries of the
mapping that is its value, or of the mappings in a sequence, the first of which counts
most. Merged entries stand in front of the others, which count more than they do.

A mapping may be asked to merge itself, directly or through others. An entry is taken
out of its mapping before its value is looked at, so each is merged once.

## Main definitions

- `Merge.flatten` — merges what a mapping asks for
- `Merge.flattened` — the graph after that
-/

namespace UtxoBalance.Yaml.Merge

/-- A step that changes the nodes. -/
abbrev Change (α : Type) := StateT Graph (Except Fault) α

/-- The next entry of a mapping that stands at `index` or behind. -/
def entry? (id : NodeId) (index : Nat) : Change (Option (NodeId × NodeId)) := do
  return ((← get).entries id)[index]?

/-- Takes the entry at `index` out of a mapping. -/
def takeOut (id : NodeId) (index : Nat) : Change Unit :=
  modify fun g => g.setEntries id ((g.entries id).eraseIdx index)

/-- Puts merged entries in front of those of a mapping. -/
def putInFront (id : NodeId) (merged : List (NodeId × NodeId)) : Change Unit :=
  modify fun g => if merged.isEmpty then g else g.setEntries id (merged ++ g.entries id)

mutual

/-- Merges what a mapping asks for, from its first entry on. -/
def flatten (id : NodeId) : (fuel : Nat) → Change Unit
  | 0 => return ()
  | fuel + 1 => flattenFrom id 0 [] fuel

/-- Merges what a mapping asks for from the entry at `index` on, where the entries in
    front of it have given those in `merged`. The key of the value that stands for a
    mapping is a text. -/
def flattenFrom (id : NodeId) (index : Nat) (merged : List (NodeId × NodeId)) :
    (fuel : Nat) → Change Unit
  | 0 => return ()
  | fuel + 1 => do
    match ← entry? id index with
    | none => putInFront id merged
    | some (key, value) =>
      let g ← get
      match (g.node key).tag with
      | .merge =>
        takeOut id index
        let more ← mergedEntries value fuel
        flattenFrom id index (merged ++ more) fuel
      | .value =>
        set (g.set key ((g.node key).retag .text))
        flattenFrom id (index + 1) merged fuel
      | _ => flattenFrom id (index + 1) merged fuel

/-- The entries that a node gives where it is merged in. -/
def mergedEntries (id : NodeId) : (fuel : Nat) → Change (List (NodeId × NodeId))
  | 0 => return []
  | fuel + 1 => do
    match (← get).node id with
    | .mapping .. =>
      flatten id fuel
      return (← get).entries id
    | .sequence _ items => mergedParts items fuel
    | .scalar .. => throw .malformed

/-- The entries of several mappings, those of the last in front. -/
def mergedParts : (items : List NodeId) → (fuel : Nat) → Change (List (NodeId × NodeId))
  | [], _ => return []
  | _, 0 => return []
  | item :: rest, fuel + 1 => do
    if ((← get).node item).entries?.isNone then throw .malformed
    flatten item fuel
    let entries := (← get).entries item
    return (← mergedParts rest fuel) ++ entries

end

/-- The graph after a mapping has merged what it asks for. -/
def flattened (g : Graph) (id : NodeId) : Except Fault Graph := do
  let (_, g) ← (flatten id (Nat.pow (g.weight + 2) 3)).run g
  return g

end UtxoBalance.Yaml.Merge
