import UtxoBalance.Atom
import UtxoBalance.Document.Fault

/-!
# Values given for settings

What a source gives for settings is wider than a document: the keys of an object may be
any values without parts, and a YAML file can hold dates and sets. Of two entries of an
object with one key the later value stands in the earlier place.

## Main definitions

- `Given`, `Given.Entries` — the values, and the entries of an object
- `Given.ofDocument` — a document as such a value
- `Given.entriesOf` — the entries that a document has or lists as pairs
-/

namespace UtxoBalance

/-- A value given for settings. -/
inductive Given
  /-- A value without parts. -/
  | atom (value : Atom)
  /-- A list. -/
  | list (items : List Given)
  /-- A set. -/
  | set (items : List Atom)
  /-- An object: values under their keys, in order. -/
  | object (entries : List (Atom × Given))
  /-- A value that no setting takes. -/
  | foreign
  deriving Inhabited

namespace Given

/-- The entries of an object, in order. -/
abbrev Entries := List (Atom × Given)

namespace Entries

/-- Sets the value under one key: a key that is there keeps its place and takes the new
    value, a new key goes to the end. -/
def put (key : Atom) (value : Given) : Entries → Entries
  | [] => [(key, value)]
  | (other, old) :: rest =>
    if other.same key then (other, value) :: rest else (other, old) :: put key value rest

/-- The entries behind a list of pairs. -/
def ofPairs (pairs : List (Atom × Given)) : Entries :=
  pairs.foldl (fun entries (key, value) => put key value entries) []

/-- The value under a text. -/
def named? (entries : Entries) (name : String) : Option Given :=
  entries.lookup (.text (.whole name))

end Entries

/-- A text. -/
def text (value : String) : Given := .atom (.text (.whole value))

/-- The word messages use for a value's kind. -/
def kind : Given → String
  | .atom value => value.kind
  | .list _ => "list"
  | .set _ => "set"
  | .object _ => "dict"
  | .foreign => "tuple"

/-- Whether a value counts as given. -/
def isPresent : Given → Bool
  | .atom value => value.isPresent
  | .list items => !items.isEmpty
  | .set items => !items.isEmpty
  | .object entries => !entries.isEmpty
  | .foreign => true

mutual

/-- A document as a value for settings. -/
def ofDocument : Document → Given
  | .null => .atom .null
  | .bool value => .atom (.bool value)
  | .int value => .atom (.int value)
  | .float value => .atom (.float value)
  | .text value => .atom (.text (.whole value))
  | .brokenText points => .atom (.text (.broken points))
  | .bytes value => .atom (.bytes value)
  | .list items => .list (ofItems items)
  | .object fields => .object (ofFields fields)

/-- The items of a list as values for settings. -/
def ofItems : List Document → List Given
  | [] => []
  | item :: rest => ofDocument item :: ofItems rest

/-- The fields of an object as entries. -/
def ofFields : List (String × Document) → List (Atom × Given)
  | [] => []
  | (name, value) :: rest => (.text (.whole name), ofDocument value) :: ofFields rest

end

/-- A document as a key, which has no parts. -/
def keyOf (d : Document) : Except Fault Atom :=
  match ofDocument d with
  | .atom value => .ok value
  | other => .error (.unhashable other.kind)

/-- The entries that a list of pairs holds, the first of which stands at `index`. -/
def pairsFrom : (index : Nat) → List Document → Except Fault (List (Atom × Given))
  | _, [] => .ok []
  | index, item :: rest => match item.elements? with
    | none => .error (.memberNotSequence index)
    | some [key, value] => do
      let key ← keyOf key
      return (key, ofDocument value) :: (← pairsFrom (index + 1) rest)
    | some other => .error (.memberLength index other.length)

/-- The entries of a document: its own fields, or the pairs that any other value
    lists. -/
def entriesOf (d : Document) : Except Fault Entries :=
  match d with
  | .object fields => .ok (ofFields fields)
  | _ => do return .ofPairs (← pairsFrom 0 (← d.elements))

end Given

end UtxoBalance
