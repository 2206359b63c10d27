import UtxoBalance.Yaml.Graph
import UtxoBalance.Yaml.Resolution
import UtxoBalance.Yaml.Token

/-!
# Reading YAML

The tokens of a text are read by recursive descent into a graph of nodes. Where a node
may stand, nothing at all is an empty scalar. An anchor names the first node that has it;
a second one with its name is refused.

There is no limit on nesting. A reader on a bounded stack breaks on a text that is nested
too deeply; how deep that is depends on the stack and on the caller, and is left out here.

## Main definitions

- `Reading` — what is left of the tokens, and what has been read
- `readNode` — a node
- `readDocument` — the one document of a text
- `parse` — the graph of a text and the number of its root
-/

namespace UtxoBalance.Yaml

/-- A text that is being read. -/
structure Reading where
  /-- The tokens that are left. -/
  tokens : Tokens
  /-- What handles stand for. -/
  handles : Handles := standardHandles
  /-- The nodes read so far. -/
  graph : Graph := {}
  /-- The nodes that anchors name. -/
  anchors : List (String × NodeId) := []

/-- A step of reading. -/
abbrev Read (α : Type) := StateT Reading (Except Fault) α

namespace Read

/-- Ends the reading of a text that breaks a rule. -/
def refuse {α : Type} : Read α := throw .malformed

/-- The next token. -/
def peek : Read Token := do
  let tokens := (← get).tokens
  match tokens.items with
  | token :: _ => return token
  | [] => throw tokens.fault

/-- Goes past the next token. -/
def advance : Read Unit :=
  modify fun r => { r with tokens := { r.tokens with items := r.tokens.items.tail } }

/-- Goes past the next token, which has to be this one. -/
def expect (token : Token) : Read Unit := do
  if (← peek) == token then advance else refuse

/-- Adds a node, and gives its number. -/
def add (node : Node) : Read NodeId :=
  modifyGet fun r =>
    let (id, graph) := r.graph.add node
    (id, { r with graph })

/-- Puts another node under a number. -/
def put (id : NodeId) (node : Node) : Read Unit :=
  modify fun r => { r with graph := r.graph.set id node }

/-- An empty scalar. -/
def empty : Read NodeId := add (.scalar .null (.whole ""))

/-- The node that an anchor names. -/
def lookup (anchor : String) : Read NodeId := do
  match (← get).anchors.lookup anchor with
  | some id => return id
  | none => refuse

end Read

open Read

/-! ### Properties -/

/-- What stands in front of a node. -/
structure Properties where
  /-- Its name for later. -/
  anchor : Option String := none
  /-- The full name of its tag. -/
  tag : Option String := none
  deriving DecidableEq, Repr

namespace Properties

/-- Whether nothing stands in front of a node. -/
def isEmpty (p : Properties) : Bool := p.anchor.isNone && p.tag.isNone

/-- The tag that is asked for. An exclamation mark asks for none. -/
def asked? (p : Properties) : Option Tag :=
  match p.tag with
  | some name => if name == "!" then none else some (.ofName name)
  | none => none

/-- The tag of a collection that has one by itself. -/
def tagOr (p : Properties) (tag : Tag) : Tag := p.asked?.getD tag

/-- The tag of a scalar: one that is plain, or marked with an exclamation mark, is
    resolved. -/
def tagOf (p : Properties) (text : Text.Raw) (isPlain : Bool) : Tag :=
  p.tagOr (if isPlain || p.tag.isSome then .ofPlain text else .text)

end Properties

/-- An anchor, if one stands here. -/
def readAnchor? : Read (Option String) := do
  match ← peek with
  | .anchor name => advance; return some name
  | _ => return none

/-- A tag, if one stands here. -/
def readTag? : Read (Option Written) := do
  match ← peek with
  | .tag tag => advance; return some tag
  | _ => return none

/-- An anchor and a tag, in either order. -/
def readProperties : Read Properties := do
  let before ← readAnchor?
  let written ← readTag?
  let after ← if before.isNone && written.isSome then readAnchor? else pure none
  let anchor := before.orElse fun _ => after
  match written with
  | none => return { anchor }
  | some written =>
    match written.expand (← get).handles with
    | some name => return { anchor, tag := some name }
    | none => refuse

/-- Gives a new node its name. -/
def bind (p : Properties) (id : NodeId) : Read NodeId := do
  if let some name := p.anchor then
    modify fun r => { r with anchors := (name, id) :: r.anchors }
  return id

/-- Refuses a name that another node has. -/
def checkAnchor (p : Properties) : Read Unit := do
  if let some name := p.anchor then
    if ((← get).anchors.lookup name).isSome then refuse

/-! ### Nodes -/

/-- A place in which a node may stand. -/
inductive Place
  /-- Between brackets. -/
  | flow
  /-- Outside brackets. -/
  | block
  /-- The key or the value of a mapping outside brackets, where the dashes of a sequence
      may stand at the column of the key. -/
  | entry
  deriving DecidableEq, Repr

/-- Whether a token can stand behind a node that is empty, in a sequence outside
    brackets. -/
def endsItem (token : Token) : Bool := token == .blockEntry || token == .blockEnd

/-- Whether a token can stand behind a node that is empty, in a mapping outside
    brackets. -/
def endsEntry (token : Token) : Bool :=
  token == .key || token == .value || token == .blockEnd

/-- Whether a token can stand behind a node that is empty, in a collection between
    brackets. -/
def endsFlow (closing token : Token) : Bool := token == .flowEntry || token == closing

/-- A sequence with these items. -/
def readSequence (p : Properties) (items : Read (List NodeId)) : Read NodeId := do
  let tag := p.tagOr .sequence
  let id ← bind p (← add (.sequence tag []))
  put id (.sequence tag (← items))
  return id

/-- A mapping with these entries. -/
def readMapping (p : Properties) (entries : Read (List (NodeId × NodeId))) : Read NodeId := do
  let tag := p.tagOr .mapping
  let id ← bind p (← add (.mapping tag []))
  put id (.mapping tag (← entries))
  return id

/-- A node, unless a token stands here that ends it. -/
def unlessAt (ends : Token → Bool) (node : Read NodeId) : Read NodeId := do
  if ends (← peek) then empty else node

/-- The node behind a colon, which may be missing. -/
def readValue (ends : Token → Bool) (node : Read NodeId) : Read NodeId := do
  if (← peek) == .value then
    advance
    unlessAt ends node
  else empty

mutual

/-- A node, nested to any depth: there is no bound on the stack. -/
def readNode (place : Place) : (fuel : Nat) → Read NodeId
  | 0 => refuse
  | fuel + 1 => do
    if let .alias name ← peek then
      advance
      return ← lookup name
    let p ← readProperties
    let token ← peek
    checkAnchor p
    match token, place with
    | .scalar text isPlain, _ =>
      advance
      bind p (← add (.scalar (p.tagOf text isPlain) text))
    | .flowSequence, _ =>
      advance
      readSequence p (readFlowItems true fuel)
    | .flowMapping, _ =>
      advance
      readMapping p (readFlowEntries true fuel)
    | .blockEntry, .entry => readSequence p (readDashItems fuel)
    | .blockSequence, .block | .blockSequence, .entry =>
      advance
      readSequence p (readBlockItems fuel)
    | .blockMapping, .block | .blockMapping, .entry =>
      advance
      readMapping p (readBlockEntries fuel)
    | _, _ =>
      if p.isEmpty then refuse
      else bind p (← add (.scalar (p.tagOf (.whole "") true) (.whole "")))

/-- The items of a sequence outside brackets, from the first dash on. -/
def readBlockItems : (fuel : Nat) → Read (List NodeId)
  | 0 => refuse
  | fuel + 1 => do
    match ← peek with
    | .blockEntry =>
      advance
      let item ← unlessAt endsItem (readNode .block fuel)
      return item :: (← readBlockItems fuel)
    | .blockEnd => advance; return []
    | _ => refuse

/-- The items of a sequence whose dashes stand at the column of its key. -/
def readDashItems : (fuel : Nat) → Read (List NodeId)
  | 0 => refuse
  | fuel + 1 => do
    if (← peek) == .blockEntry then
      advance
      let item ← unlessAt (fun token => endsItem token || endsEntry token) (readNode .block fuel)
      return item :: (← readDashItems fuel)
    else return []

/-- The entries of a mapping outside brackets, from the first key on. -/
def readBlockEntries : (fuel : Nat) → Read (List (NodeId × NodeId))
  | 0 => refuse
  | fuel + 1 => do
    match ← peek with
    | .key =>
      advance
      let key ← unlessAt endsEntry (readNode .entry fuel)
      let value ← readValue endsEntry (readNode .entry fuel)
      return (key, value) :: (← readBlockEntries fuel)
    | .blockEnd => advance; return []
    | _ => refuse

/-- The items of a sequence between brackets, up to the closing one. A pair among them is
    a mapping by itself. -/
def readFlowItems (isFirst : Bool) : (fuel : Nat) → Read (List NodeId)
  | 0 => refuse
  | fuel + 1 => do
    let ends := endsFlow .flowSequenceEnd
    if (← peek) == .flowSequenceEnd then advance; return []
    if !isFirst then expect .flowEntry
    match ← peek with
    | .flowSequenceEnd => advance; return []
    | .key =>
      advance
      let key ← unlessAt (fun token => token == .value || ends token) (readNode .flow fuel)
      let value ← readValue ends (readNode .flow fuel)
      let item ← add (.mapping .mapping [(key, value)])
      return item :: (← readFlowItems false fuel)
    | _ =>
      let item ← readNode .flow fuel
      return item :: (← readFlowItems false fuel)

/-- The entries of a mapping between braces, up to the closing one. What is no pair is a
    key with an empty value. -/
def readFlowEntries (isFirst : Bool) : (fuel : Nat) → Read (List (NodeId × NodeId))
  | 0 => refuse
  | fuel + 1 => do
    let ends := endsFlow .flowMappingEnd
    if (← peek) == .flowMappingEnd then advance; return []
    if !isFirst then expect .flowEntry
    match ← peek with
    | .flowMappingEnd => advance; return []
    | .key =>
      advance
      let key ← unlessAt (fun token => token == .value || ends token) (readNode .flow fuel)
      let value ← readValue ends (readNode .flow fuel)
      return (key, value) :: (← readFlowEntries false fuel)
    | _ =>
      let key ← readNode .flow fuel
      let value ← empty
      return (key, value) :: (← readFlowEntries false fuel)

end

/-! ### Documents -/

/-- The directives in front of a document: what its handles stand for. A version and a
    handle are told once at most, and the version is the first major one. -/
def readDirectives (hasVersion : Bool) (handles : Handles) : (fuel : Nat) → Read Handles
  | 0 => refuse
  | fuel + 1 => do
    match ← peek with
    | .directive directive =>
      advance
      match directive with
      | .version major =>
        if hasVersion || major != 1 then refuse
        readDirectives true handles fuel
      | .handle handle meaning =>
        if (handles.lookup handle).isSome then refuse
        readDirectives hasVersion (handles ++ [(handle, meaning)]) fuel
      | .reserved => readDirectives hasVersion handles fuel
    | _ => return handles

/-- Goes past the markers behind documents. -/
def skipEnds : (fuel : Nat) → Read Unit
  | 0 => refuse
  | fuel + 1 => do
    if (← peek) == .documentEnd then
      advance
      skipEnds fuel

/-- Whether a token can stand behind a document in which nothing is written. -/
def endsDocument : Token → Bool
  | .directive _ | .documentStart | .documentEnd | .streamEnd => true
  | _ => false

/-- The root behind the marker in front of a document, unless the text is over. -/
def readMarked (fuel : Nat) : Read (Option NodeId) := do
  skipEnds fuel
  if (← peek) == .streamEnd then return none
  let handles ← readDirectives false [] fuel
  expect .documentStart
  modify fun r => { r with handles := handles ++ standardHandles }
  some <$> unlessAt endsDocument (readNode .block fuel)

/-- The root of the one document of a text, if there is one. The first document needs no
    marker in front of it. -/
def readDocument (fuel : Nat) : Read (Option NodeId) := do
  let root ← match ← peek with
    | .directive _ | .documentStart | .streamEnd => readMarked fuel
    | _ => some <$> readNode .block fuel
  if root.isSome then
    skipEnds fuel
    if (← peek) != .streamEnd then
      let _ ← readDirectives false [] fuel
      refuse
  return root

/-- The graph of a text, with the number of its root if it has one. -/
def parse (text : List Char) : Except Fault (Graph × Option NodeId) := do
  if !text.all isAllowed then throw .malformed
  let tokens := Tokens.ofText text
  let (root, r) ← (readDocument (4 * tokens.items.length + 8)).run { tokens }
  return (r.graph, root)

end UtxoBalance.Yaml
