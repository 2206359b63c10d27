import UtxoBalance.Text.Utf8
import UtxoBalance.Yaml.Cursor

/-!
# Tags

A tag says what kind of value a node has. It is written as a handle with an ending, or
in full between angle brackets; the directives of a document tell what its handles stand
for.

## Main definitions

- `Tag`, `Tag.ofName` — the tags, and the tag with a full name
- `Written` — a tag as it is written
- `Handles`, `Written.expand` — what handles stand for
- `readTag`, `readHandle`, `readTagText` — the parts of a written tag
-/

namespace UtxoBalance.Yaml

/-- What kind of value a node has. -/
inductive Tag
  /-- Nothing. -/
  | null
  /-- A truth value. -/
  | bool
  /-- An integer. -/
  | int
  /-- A floating-point number. -/
  | float
  /-- A byte string in base64. -/
  | binary
  /-- A date, or a date with a time. -/
  | moment
  /-- A text. -/
  | text
  /-- A sequence. -/
  | sequence
  /-- A mapping. -/
  | mapping
  /-- A set, whose items are the keys of a mapping. -/
  | set
  /-- A sequence of pairs. -/
  | pairs
  /-- The key under which entries are merged in. -/
  | merge
  /-- The key under which a mapping has a value that stands for it. -/
  | value
  /-- No kind that is known. -/
  | unknown
  deriving DecidableEq, Repr, Inhabited

namespace Tag

/-- What the full names of the tags of the language begin with. -/
def standard : String := "tag:yaml.org,2002:"

/-- The tags of the language with their names. -/
def names : List (String × Tag) :=
  [("null", .null), ("bool", .bool), ("int", .int), ("float", .float), ("binary", .binary),
   ("timestamp", .moment), ("str", .text), ("seq", .sequence), ("map", .mapping),
   ("set", .set), ("omap", .pairs), ("pairs", .pairs), ("merge", .merge), ("value", .value)]

/-- The tag with a full name. -/
def ofName (name : String) : Tag :=
  ((names.map fun (ending, tag) => (standard ++ ending, tag)).lookup name).getD .unknown

end Tag

/-! ### Handles -/

/-- A tag as it is written: a handle, unless the tag is written in full, and the rest. -/
structure Written where
  /-- The handle. -/
  handle : Option String
  /-- What follows it. -/
  ending : String
  deriving DecidableEq, Repr

/-- What the handles of a document stand for. -/
abbrev Handles := List (String × String)

/-- The handles that stand for something without a directive. -/
def standardHandles : Handles := [("!", "!"), ("!!", Tag.standard)]

/-- The full name of a tag, if its handle stands for something. -/
def Written.expand (handles : Handles) (written : Written) : Option String :=
  match written.handle with
  | some handle => (handles.lookup handle).map (· ++ written.ending)
  | none => some written.ending

/-! ### Written tags -/

/-- Whether a character may stand in the name of an anchor, a handle or a directive. -/
def isNameChar (c : Char) : Bool := c.isAlphanum || c == '-' || c == '_'

/-- Whether a character other than a percent sign may stand in the rest of a tag. -/
def isTagChar (c : Char) : Bool :=
  c.isAlphanum || "-;/?:@&=+$,_.!~*'()[]".toList.contains c

/-- Whether a space, a break or the end stands here. -/
def Cursor.atBlank (c : Cursor) : Bool :=
  c.rest.head?.all fun char => char == ' ' || isBreak char

/-- The octets that percent signs with two digits each write, and the characters after
    them. -/
def percentOctets : List Char → Option (Bytes × List Char)
  | '%' :: a :: b :: rest => do
    let high ← Hex.value? a
    let low ← Hex.value? b
    let (more, stop) ← percentOctets rest
    return (UInt8.ofNat (16 * high + low) :: more, stop)
  | '%' :: _ => none
  | rest => some ([], rest)

/-- The characters of the rest of a tag, and the place after it. Octets behind percent
    signs are characters in UTF-8. -/
def tagChars : (fuel : Nat) → Cursor → Option (List Char × Cursor)
  | 0, c => some ([], c)
  | fuel + 1, c =>
    match c.rest with
    | '%' :: _ => do
      let (octets, rest) ← percentOctets c.rest
      let chars ← (Utf8.decode octets).toOption
      let (more, stop) ← tagChars fuel (c.skip (c.rest.length - rest.length))
      return (chars ++ more, stop)
    | char :: _ =>
      if isTagChar char then do
        let (more, stop) ← tagChars fuel c.next
        return (char :: more, stop)
      else some ([], c)
    | [] => some ([], c)

/-- The rest of a tag, of which there has to be something, and the place after it. -/
def readTagText (c : Cursor) : Option (String × Cursor) := do
  let (chars, stop) ← tagChars (c.rest.length + 1) c
  if stop.index == c.index then none else return (String.ofList chars, stop)

/-- A handle: an exclamation mark, or a name between two of them; and the place after
    it. -/
def readHandle (c : Cursor) : Option (String × Cursor) := do
  if c.rest.head? != some '!' then none
  if c.next.rest.head? == some ' ' then return ("!", c.next)
  let name := c.next.run isNameChar
  let stop := c.next.pastRun isNameChar
  if stop.rest.head? != some '!' then none
  return (String.ofList ('!' :: name ++ ['!']), stop.next)

/-- A tag at its exclamation mark, and the place after it. -/
def readTag (c : Cursor) : Option (Written × Cursor) := do
  let (written, stop) ← match c.next.rest with
    | '<' :: _ => do
      let (ending, stop) ← readTagText (c.skip 2)
      if stop.rest.head? == some '>' then some (⟨none, ending⟩, stop.next) else none
    | rest =>
      if gapOrEnd rest then some (⟨none, "!"⟩, c.next)
      else
        let word := c.next.run fun char => char != ' ' && !isBreak char
        let (handle, stop) ← if word.contains '!' then readHandle c else some ("!", c.next)
        let (ending, last) ← readTagText stop
        some (⟨some handle, ending⟩, last)
  if stop.atBlank then return (written, stop) else none

end UtxoBalance.Yaml
