import UtxoBalance.Given
import UtxoBalance.Yaml.Meaning
import UtxoBalance.Yaml.Merge
import UtxoBalance.Yaml.Reader

/-!
# The value of a YAML text

The nodes of a text are made into values level by level: what a collection holds is
looked at only after all collections on its own level, so of several faults the one on
the highest level is found first. A node that stands in several places is looked at
once. A key has no parts.

## Main definitions

- `Made` — what has been made of a node
- `Making.make`, `Making.fill` — one node, and what a collection holds
- `Making.given` — the value of a node
- `read` — the value of a text
-/

namespace UtxoBalance.Yaml

/-- What has been made of a node. -/
inductive Made
  /-- A value without parts. -/
  | atom (value : Atom)
  /-- A list. -/
  | list
  /-- A list of pairs. -/
  | pairs
  /-- A mapping. -/
  | mapping
  /-- A set. -/
  | set
  deriving DecidableEq, Repr, Inhabited

/-- Nodes of which some have been made into values. -/
structure Making where
  /-- The nodes. -/
  graph : Graph
  /-- What has been made of them. -/
  made : List (NodeId × Made) := []
  /-- The collections whose parts have not been looked at, in order. -/
  waiting : List NodeId := []

namespace Making

/-- The text of a scalar. That of a mapping is the text of the value that stands for it,
    looked for `fuel` times at most. -/
def textOf (g : Graph) : (fuel : Nat) → NodeId → Except Fault Text.Raw
  | 0, _ => throw .endless
  | fuel + 1, id =>
    match g.node id with
    | .scalar _ text => return text
    | .sequence .. => throw .malformed
    | .mapping _ entries =>
      match entries.find? fun (key, _) => (g.node key).tag == .value with
      | some (_, value) => textOf g fuel value
      | none => throw .malformed

/-- What a node with the tag of a scalar is made into. -/
def atomOf (g : Graph) (id : NodeId) : Except Fault Atom := do
  let node := g.node id
  if !node.tag.isScalar then throw .malformed
  let text ← textOf g (g.size + 1) id
  if node.tag == .moment && node.entries?.isSome then throw .momentOfMapping
  node.tag.atom text

/-- The collection that a tag asks for. -/
def collection? : Tag → Option Made
  | .sequence => some .list
  | .mapping => some .mapping
  | .set => some .set
  | .pairs => some .pairs
  | _ => none

/-- Makes a node into a value, unless that has been done. The parts of a collection are
    left for later. -/
def make (m : Making) (id : NodeId) : Except Fault Making := do
  if (m.made.lookup id).isSome then return m
  match collection? (m.graph.node id).tag with
  | some made => return { m with made := (id, made) :: m.made, waiting := m.waiting ++ [id] }
  | none => return { m with made := (id, .atom (← atomOf m.graph id)) :: m.made }

/-- What has been made of a node. -/
def made? (m : Making) (id : NodeId) : Option Made := m.made.lookup id

/-- Whether a node has been made into a value without parts. -/
def isAtom (m : Making) (id : NodeId) : Bool :=
  match m.made? id with
  | some (.atom _) => true
  | _ => false

/-- Makes the keys and the values of a mapping, one entry after another. -/
def fillEntries (m : Making) : List (NodeId × NodeId) → Except Fault Making
  | [] => return m
  | (key, value) :: rest => do
    let m ← m.make key
    if !m.isAtom key then throw .malformed
    (← m.make value).fillEntries rest

/-- Makes the parts of pairs, each of which is a mapping with one entry. -/
def fillPairs (m : Making) : List NodeId → Except Fault Making
  | [] => return m
  | item :: rest => do
    match (m.graph.node item).entries? with
    | some [(key, value)] => (← (← m.make key).make value).fillPairs rest
    | _ => throw .malformed

/-- Makes the parts of a collection. A mapping and a set merge first what they ask
    for. -/
def fill (m : Making) (id : NodeId) : Except Fault Making := do
  match m.made? id, m.graph.node id with
  | some .list, .sequence _ items => items.foldlM make m
  | some .pairs, .sequence _ items => m.fillPairs items
  | some .mapping, .mapping .. | some .set, .mapping .. =>
    let m := { m with graph := ← Merge.flattened m.graph id }
    m.fillEntries (m.graph.entries id)
  | _, _ => throw .malformed

/-- Makes the parts of all collections, `fuel` of them at most. -/
def fillAll : (fuel : Nat) → Making → Except Fault Making
  | 0, m => return m
  | fuel + 1, m =>
    match m.waiting with
    | [] => return m
    | id :: rest => do fillAll fuel (← { m with waiting := rest }.fill id)

/-- A graph in which everything that can be reached from a node has been made into
    values. -/
def ofRoot (graph : Graph) (root : NodeId) : Except Fault Making := do
  fillAll (graph.size + 1) (← { graph : Making }.make root)

/-! ### Values -/

/-- What a node is as a key. -/
def keyOf (m : Making) (id : NodeId) : Atom :=
  match m.made? id with
  | some (.atom value) => value
  | _ => .null

/-- The value of a node down to a depth. A node can stand inside itself, so below that
    depth nothing is looked at. -/
def given (m : Making) : (depth : Nat) → NodeId → Given
  | 0, _ => .foreign
  | depth + 1, id =>
    match m.made? id, m.graph.node id with
    | some (.atom value), _ => .atom value
    | some .list, .sequence _ items => .list (items.map (m.given depth))
    | some .pairs, .sequence _ items => .list (items.map fun _ => .foreign)
    | some .mapping, .mapping _ entries =>
      .object <| Given.Entries.ofPairs <| entries.map fun (key, value) =>
        (m.keyOf key, m.given depth value)
    | some .set, .mapping _ entries =>
      let keys := entries.map fun (key, _) => (m.keyOf key, Given.foreign)
      .set ((Given.Entries.ofPairs keys).map Prod.fst)
    | _, _ => .foreign

end Making

/-- The value of a text down to a depth. A text in which nothing is written has the
    absent value. -/
def read (depth : Nat) (text : List Char) : Except Fault Given := do
  match ← parse text with
  | (_, none) => return .atom .null
  | (graph, some root) => return (← Making.ofRoot graph root).given depth root

end UtxoBalance.Yaml
