import UtxoBalance.Bytes.Hex
import UtxoBalance.Number.Binary64
import UtxoBalance.Text.Raw

/-!
# Documents

A document is a value whose shape is not known in advance: what a JSON or YAML
text holds, or what a caller hands over in its place. Objects keep the order of
their fields and hold each name once.

A text may hold halves of surrogate pairs, and is then kept by its code points. The
names of fields are made of characters: there is no document for an object with such
a half in a name. Where an escape spells one, the name of the document that is read
has the replacement character in its place, so that two such names may become one.

## Main definitions

- `Document` — the values
- `Document.ofRaw`, `Document.raw?` — texts as values, and back
- `Document.kind` — the word messages use for a value's kind
- `Document.isPresent` — whether a value counts as given
- `Fields`, `Fields.put`, `Fields.ofPairs` — the fields of an object
-/

namespace UtxoBalance

/-- A value whose shape is not known in advance. -/
inductive Document
  /-- The absent value. -/
  | null
  /-- A truth value. -/
  | bool (value : Bool)
  /-- An integer of any size. -/
  | int (value : Int)
  /-- A floating-point number. -/
  | float (value : Binary64)
  /-- A text. -/
  | text (value : String)
  /-- A text with halves of surrogate pairs, by its code points. -/
  | brokenText (points : List Nat)
  /-- A byte string, which no text format can hold. -/
  | bytes (value : Bytes)
  /-- A list. -/
  | list (items : List Document)
  /-- An object: named fields in order. -/
  | object (fields : List (String × Document))
  deriving Inhabited

/-- The fields of an object, in order. -/
abbrev Fields := List (String × Document)

/-- Sets one field: a name that is there keeps its place and takes the new value,
    a new name goes to the end. -/
def Fields.put (name : String) (value : Document) : Fields → Fields
  | [] => [(name, value)]
  | (other, old) :: rest =>
    if other = name then (name, value) :: rest else (other, old) :: put name value rest

/-- The fields behind a list of pairs: of two pairs with one name the later value
    stands in the earlier place. -/
def Fields.ofPairs (pairs : List (String × Document)) : Fields :=
  pairs.foldl (fun fields (name, value) => Fields.put name value fields) []

namespace Document

/-- A text. -/
def ofRaw : Text.Raw → Document
  | .whole value => .text value
  | .broken points => .brokenText points

/-- The text that a value is, if it is one. -/
def raw? : Document → Option Text.Raw
  | .text value => some (.whole value)
  | .brokenText points => some (.broken points)
  | _ => none

@[simp] theorem raw?_ofRaw (text : Text.Raw) : (ofRaw text).raw? = some text := by
  cases text with
  | whole value => rfl
  | broken points => rfl

theorem raw?_eq_some_iff {d : Document} {text : Text.Raw} : d.raw? = some text ↔ d = ofRaw text := by
  constructor
  · intro h
    cases d with
    | text value =>
      cases h
      rfl
    | brokenText points =>
      cases h
      rfl
    | _ => cases h
  · rintro rfl
    exact raw?_ofRaw text

/-- The word messages use for a value's kind. -/
def kind : Document → String
  | .null => "NoneType"
  | .bool _ => "bool"
  | .int _ => "int"
  | .float _ => "float"
  | .text _ | .brokenText _ => "str"
  | .bytes _ => "bytes"
  | .list _ => "list"
  | .object _ => "dict"

/-- Whether a value counts as given: the absent value, falsehood, the zeros and
    everything empty do not. -/
def isPresent : Document → Bool
  | .null => false
  | .bool value => value
  | .int value => value != 0
  | .float value => !value.isZero
  | .text value => value != ""
  | .brokenText points => !points.isEmpty
  | .bytes value => !value.isEmpty
  | .list items => !items.isEmpty
  | .object fields => !fields.isEmpty

/-- The value of a field; a field that is missing reads as the absent value. -/
def field (fields : Fields) (name : String) : Document :=
  (fields.lookup name).getD .null

end Document

end UtxoBalance
