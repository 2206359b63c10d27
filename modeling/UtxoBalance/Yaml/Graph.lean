import UtxoBalance.Text.Raw
import UtxoBalance.Yaml.Tag

/-!
# Graphs of YAML nodes

What a text says before its scalars are read: scalars, sequences and mappings. A node
that has an anchor can stand in several places, and even inside itself, so the nodes of
a text are a graph, in which each has a number.

## Main definitions

- `Node`, `Graph` — a node, and the nodes of a text
- `Graph.node` — the node with a number
- `Graph.add`, `Graph.set` — a graph with one more node, and with one node changed
-/

namespace UtxoBalance.Yaml

/-- The number of a node. -/
abbrev NodeId := Nat

/-- A node of a text. -/
inductive Node
  /-- A scalar. -/
  | scalar (tag : Tag) (text : Text.Raw)
  /-- A sequence. -/
  | sequence (tag : Tag) (items : List NodeId)
  /-- A mapping. -/
  | mapping (tag : Tag) (entries : List (NodeId × NodeId))
  deriving DecidableEq, Repr, Inhabited

namespace Node

/-- The tag of a node. -/
def tag : Node → Tag
  | .scalar tag _ | .sequence tag _ | .mapping tag _ => tag

/-- A node with another tag. -/
def retag (tag : Tag) : Node → Node
  | .scalar _ text => .scalar tag text
  | .sequence _ items => .sequence tag items
  | .mapping _ entries => .mapping tag entries

/-- The entries of a node, if it is a mapping. -/
def entries? : Node → Option (List (NodeId × NodeId))
  | .mapping _ entries => some entries
  | _ => none

/-- A mapping with other entries. -/
def withEntries (entries : List (NodeId × NodeId)) : Node → Node
  | .mapping tag _ => .mapping tag entries
  | node => node

/-- The number of nodes that a node names, and one for itself. -/
def weight : Node → Nat
  | .scalar .. => 1
  | .sequence _ items => items.length + 1
  | .mapping _ entries => 2 * entries.length + 1

end Node

/-- The nodes of a text by their numbers. -/
structure Graph where
  /-- The nodes. -/
  nodes : Array Node := #[]
  deriving Repr

namespace Graph

/-- The number of nodes. -/
def size (g : Graph) : Nat := g.nodes.size

/-- The node with a number. -/
def node (g : Graph) (id : NodeId) : Node := g.nodes.getD id (.scalar .null (.whole ""))

/-- The number that the next node gets, and the graph with it. -/
def add (g : Graph) (node : Node) : NodeId × Graph :=
  (g.size, { nodes := g.nodes.push node })

/-- The graph with another node under a number. -/
def set (g : Graph) (id : NodeId) (node : Node) : Graph :=
  { nodes := g.nodes.setIfInBounds id node }

/-- The entries of the mapping with a number. -/
def entries (g : Graph) (id : NodeId) : List (NodeId × NodeId) :=
  (g.node id).entries?.getD []

/-- The graph with other entries in the mapping with a number. -/
def setEntries (g : Graph) (id : NodeId) (entries : List (NodeId × NodeId)) : Graph :=
  g.set id ((g.node id).withEntries entries)

/-- The number of nodes and of the places in which they stand. -/
def weight (g : Graph) : Nat := g.nodes.foldl (fun n node => n + node.weight) 0

/-- The node just added is the one under its number. -/
theorem node_add (g : Graph) (node : Node) : (g.add node).2.node (g.add node).1 = node := by
  simp [add, Graph.node, size, Array.getD]

/-- Adding a node changes none of the others. -/
theorem node_add_of_lt (g : Graph) (node : Node) (id : NodeId) (h : id < g.nodes.size) :
    (g.add node).2.node id = g.node id := by
  simp [add, Graph.node, Array.getD, h, Nat.lt_succ_of_lt h, Array.getElem_push]

end Graph

end UtxoBalance.Yaml
