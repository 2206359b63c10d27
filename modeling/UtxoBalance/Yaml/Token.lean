import UtxoBalance.Yaml.Scalar
import UtxoBalance.Yaml.Tag

/-!
# Tokens of YAML texts

A text is a row of tokens: scalars, signs, and the beginnings and ends of block
collections, which are not written but follow from the columns at which lines begin.

That a scalar was the key of a mapping is known only when its colon is found, on the
same line and not too far behind it. Until then the place of the scalar is remembered,
one place for each depth of brackets, and its token is held back.

## Main definitions

- `Token` — the tokens
- `Tokens` — the tokens of a text, and why they end
- `Scan` — a text of which the tokens in front have been read
- `Tokens.ofText` — the tokens of a text
-/

namespace UtxoBalance.Yaml

/-- What a directive in front of a document says. -/
inductive Directive
  /-- The major version of the language. -/
  | version (major : Int)
  /-- What a handle stands for. -/
  | handle (handle meaning : String)
  /-- Something that is passed over. -/
  | reserved
  deriving DecidableEq, Repr

/-- A part of a text. -/
inductive Token
  /-- A directive. -/
  | directive (directive : Directive)
  /-- The marker in front of a document. -/
  | documentStart
  /-- The marker behind a document. -/
  | documentEnd
  /-- The end of the text. -/
  | streamEnd
  /-- The beginning of a sequence outside brackets. -/
  | blockSequence
  /-- The beginning of a mapping outside brackets. -/
  | blockMapping
  /-- The end of a sequence or a mapping outside brackets. -/
  | blockEnd
  /-- The bracket that opens a sequence. -/
  | flowSequence
  /-- The bracket that closes a sequence. -/
  | flowSequenceEnd
  /-- The brace that opens a mapping. -/
  | flowMapping
  /-- The brace that closes a mapping. -/
  | flowMappingEnd
  /-- The comma between brackets. -/
  | flowEntry
  /-- The dash of an item. -/
  | blockEntry
  /-- What stands in front of a key. -/
  | key
  /-- The colon in front of a value. -/
  | value
  /-- The name of an anchor, where its node is meant again. -/
  | alias (name : String)
  /-- The name of an anchor, in front of its node. -/
  | anchor (name : String)
  /-- A tag in front of a node. -/
  | tag (tag : Written)
  /-- A scalar, plain or not. -/
  | scalar (text : Text.Raw) (isPlain : Bool)
  deriving DecidableEq, Repr, Inhabited

/-- The tokens of a text. -/
structure Tokens where
  /-- The tokens in order. -/
  items : List Token
  /-- Why no more of them can be read. -/
  fault : Fault

/-! ### Places of keys -/

/-- A place at which a key may have begun. -/
structure KeyPlace where
  /-- The depth of brackets there. -/
  depth : Nat
  /-- The number of tokens before it. -/
  number : Nat
  /-- Whether nothing but a key can stand there. -/
  isRequired : Bool
  /-- The place in the text. -/
  place : Cursor

/-- The greatest distance of a colon from the beginning of its key. -/
def maxKeyLength : Nat := 1024

/-- Whether a colon that stands here can belong to a key that began there. -/
def KeyPlace.isInReach (key : KeyPlace) (here : Cursor) : Bool :=
  key.place.line == here.line && here.index - key.place.index ≤ maxKeyLength

/-! ### Scans -/

/-- A text of which the tokens in front have been read. -/
structure Scan where
  /-- The place after them. -/
  here : Cursor
  /-- The depth of brackets. -/
  depth : Nat := 0
  /-- The column of the block collection, one less than all columns outside of them. -/
  indent : Int := -1
  /-- The columns of the block collections around it. -/
  outer : List Int := []
  /-- Whether a key may begin here. -/
  keyAllowed : Bool := true
  /-- The places at which keys may have begun. -/
  keys : List KeyPlace := []
  /-- The number of tokens that have been handed out. -/
  taken : Nat := 0
  /-- The tokens that are held back. -/
  held : List Token := []
  /-- Whether the end of the text has been read. -/
  isDone : Bool := false

namespace Scan

/-- A scan with one more token, at a place after it. -/
def put (s : Scan) (token : Token) (here : Cursor) : Scan :=
  { s with held := s.held ++ [token], here }

/-- Forgets the places of keys that are out of reach. -/
def forgetKeys (s : Scan) : Except Fault Scan :=
  let (near, far) := s.keys.partition (·.isInReach s.here)
  if far.any (·.isRequired) then throw .malformed else return { s with keys := near }

/-- Forgets the place of a key at this depth. -/
def forgetKey (s : Scan) : Except Fault Scan :=
  let (these, others) := s.keys.partition (·.depth == s.depth)
  if these.any (·.isRequired) then throw .malformed else return { s with keys := others }

/-- Remembers this place as one at which a key may begin. -/
def rememberKey (s : Scan) : Except Fault Scan := do
  if !s.keyAllowed then return s
  let key : KeyPlace :=
    { depth := s.depth, number := s.taken + s.held.length
      isRequired := s.depth == 0 && s.indent == s.here.column, place := s.here }
  let s ← s.forgetKey
  return { s with keys := s.keys ++ [key] }

/-- The collections that are left when those with a column above `column` are ended, and
    the number of those. -/
def closing (column : Int) : (indent : Int) → (outer : List Int) → Nat × Int × List Int
  | indent, [] => (0, indent, [])
  | indent, next :: rest =>
    if column < indent then
      let (count, left) := closing column next rest
      (count + 1, left)
    else (0, indent, next :: rest)

/-- Ends the block collections with a column above `column`. Between brackets columns
    mean nothing. -/
def unwind (column : Int) (s : Scan) : Scan :=
  if s.depth != 0 then s
  else
    let (count, indent, outer) := closing column s.indent s.outer
    { s with indent, outer, held := s.held ++ List.replicate count .blockEnd }

/-- Begins a block collection at `column` unless one at that column is open; its token
    goes behind the first `count` of those held back. -/
def openBlock (token : Token) (column count : Nat) (s : Scan) : Scan :=
  if s.depth == 0 && s.indent < column then
    { s with
      indent := column, outer := s.indent :: s.outer
      held := s.held.take count ++ token :: s.held.drop count }
  else s

/-! ### One token -/

/-- The end of the text. -/
def fetchEnd (s : Scan) : Except Fault Scan := do
  let s ← (s.unwind (-1)).forgetKey
  return { s.put .streamEnd s.here with keys := [], keyAllowed := false, isDone := true }

/-- A marker between documents. -/
def fetchMarker (token : Token) (s : Scan) : Except Fault Scan := do
  let s ← (s.unwind (-1)).forgetKey
  return { s.put token (s.here.skip 3) with keyAllowed := false }

/-- A decimal number, and the place after it. -/
def readNumber (c : Cursor) : Except Fault (Int × Cursor) := do
  let digits := c.run Char.isDigit
  if digits.isEmpty then throw .malformed
  return (← (Numeral.read (String.ofList digits)).mapError .numeral, c.pastRun Char.isDigit)

/-- What an optional part of a tag is, which has to be there. -/
def demand {α : Type} : Option α → Except Fault α
  | some x => return x
  | none => throw .malformed

/-- What stands behind the name of a directive, and the place after it. -/
def readDirective (name : String) (c : Cursor) : Except Fault (Directive × Cursor) := do
  if name == "YAML" then
    let (major, point) ← readNumber c.pastSpaces
    if point.rest.head? != some '.' then throw .malformed
    let (_, stop) ← readNumber point.next
    if stop.atBlank then return (.version major, stop) else throw .malformed
  else if name == "TAG" then
    let (handle, stop) ← demand (readHandle c.pastSpaces)
    if stop.rest.head? != some ' ' then throw .malformed
    let (meaning, last) ← demand (readTagText stop.pastSpaces)
    if last.atBlank then return (.handle handle meaning, last) else throw .malformed
  else return (.reserved, c.pastLine)

/-- A directive. -/
def fetchDirective (s : Scan) : Except Fault Scan := do
  let s ← (s.unwind (-1)).forgetKey
  let name := s.here.next.run isNameChar
  let stop := s.here.next.pastRun isNameChar
  if name.isEmpty || !stop.atBlank then throw .malformed
  let (directive, last) ← readDirective (String.ofList name) stop
  let after := last.pastComment
  if !after.rest.head?.all isBreak then throw .malformed
  return { s.put (.directive directive) after.next with keyAllowed := false }

/-- A bracket that opens a collection, which can itself be a key. -/
def fetchOpening (token : Token) (s : Scan) : Except Fault Scan := do
  let s ← s.rememberKey
  return { s.put token s.here.next with depth := s.depth + 1, keyAllowed := true }

/-- A bracket that closes a collection. -/
def fetchClosing (token : Token) (s : Scan) : Except Fault Scan := do
  let s ← s.forgetKey
  return { s.put token s.here.next with depth := s.depth - 1, keyAllowed := false }

/-- A comma between brackets. -/
def fetchComma (s : Scan) : Except Fault Scan := do
  let s ← s.forgetKey
  return { s.put .flowEntry s.here.next with keyAllowed := true }

/-- The dash of an item. -/
def fetchDash (s : Scan) : Except Fault Scan := do
  if s.depth == 0 && !s.keyAllowed then throw .malformed
  let s ← (s.openBlock .blockSequence s.here.column s.held.length).forgetKey
  return { s.put .blockEntry s.here.next with keyAllowed := true }

/-- The question mark in front of a key. -/
def fetchKey (s : Scan) : Except Fault Scan := do
  if s.depth == 0 && !s.keyAllowed then throw .malformed
  let s ← (s.openBlock .blockMapping s.here.column s.held.length).forgetKey
  return { s.put .key s.here.next with keyAllowed := s.depth == 0 }

/-- The colon in front of a value. If a key was waiting for it, what tells so goes in
    front of that key. -/
def fetchValue (s : Scan) : Except Fault Scan := do
  match s.keys.find? (·.depth == s.depth) with
  | some key =>
    let count := key.number - s.taken
    let s := { s with
      keys := s.keys.filter (·.depth != s.depth)
      held := s.held.take count ++ Token.key :: s.held.drop count }
    let s := s.openBlock .blockMapping key.place.column count
    return { s.put .value s.here.next with keyAllowed := false }
  | none =>
    if s.depth == 0 && !s.keyAllowed then throw .malformed
    let s ← (s.openBlock .blockMapping s.here.column s.held.length).forgetKey
    return { s.put .value s.here.next with keyAllowed := s.depth == 0 }

/-- The signs that may follow a name at once. -/
def nameEnds : List Char := ['?', ':', ',', ']', '\x7d', '%', '@', '\x60']

/-- The name of an anchor. -/
def fetchName (token : String → Token) (s : Scan) : Except Fault Scan := do
  let s ← s.rememberKey
  let name := s.here.next.run isNameChar
  let stop := s.here.next.pastRun isNameChar
  if name.isEmpty || !(gapOrEnd stop.rest || stop.rest.head?.any nameEnds.contains) then
    throw .malformed
  return { s.put (token (String.ofList name)) stop with keyAllowed := false }

/-- A tag. -/
def fetchTag (s : Scan) : Except Fault Scan := do
  let s ← s.rememberKey
  let (tag, stop) ← demand (readTag s.here)
  return { s.put (.tag tag) stop with keyAllowed := false }

/-- The least column of the lines of a scalar. -/
def level (s : Scan) : Nat := (s.indent + 1).toNat

/-- A block of lines. -/
def fetchBlock (folded : Bool) (s : Scan) : Except Fault Scan := do
  let s ← s.forgetKey
  let (text, stop) ← s.here.next.block folded s.level
  return { s.put (.scalar text false) stop with keyAllowed := true }

/-- A quoted scalar. -/
def fetchQuoted (isDouble : Bool) (s : Scan) : Except Fault Scan := do
  let s ← s.rememberKey
  let (text, stop) ← s.here.next.quoted isDouble
  return { s.put (.scalar text false) stop with keyAllowed := false }

/-- A plain scalar. Behind one that ends its line a key may begin. -/
def fetchPlain (s : Scan) : Except Fault Scan := do
  let s ← s.rememberKey
  let plain := s.here.plain (s.depth != 0) s.level
  return { s.put (.scalar (.ofChars plain.chars) true) plain.stop with
    keyAllowed := plain.endsLine }

/-- The token that begins with a sign, if a token can begin with it here. -/
def fetchSign (sign : Char) (s : Scan) : Except Fault Scan :=
  let inFlow := s.depth != 0
  match sign with
  | '[' => s.fetchOpening .flowSequence
  | '\x7b' => s.fetchOpening .flowMapping
  | ']' => s.fetchClosing .flowSequenceEnd
  | '\x7d' => s.fetchClosing .flowMappingEnd
  | ',' => s.fetchComma
  | '*' => s.fetchName .alias
  | '&' => s.fetchName .anchor
  | '!' => s.fetchTag
  | '\'' => s.fetchQuoted false
  | '"' => s.fetchQuoted true
  | _ =>
    if sign == '-' && s.here.atSign '-' then s.fetchDash
    else if sign == '?' && (inFlow || s.here.atSign '?') then s.fetchKey
    else if sign == ':' && (inFlow || s.here.atSign ':') then s.fetchValue
    else if sign == '|' && !inFlow then s.fetchBlock false
    else if sign == '>' && !inFlow then s.fetchBlock true
    else if beginsPlain inFlow s.here.rest then s.fetchPlain
    else throw .malformed

/-- Reads the next token, with those that the column of its line brings about. -/
def fetch (s : Scan) : Except Fault Scan := do
  let (breaks, here) := s.here.toToken
  let keyAllowed := s.keyAllowed || (breaks != 0 && s.depth == 0)
  let s ← { s with here, keyAllowed }.forgetKeys
  let s := s.unwind here.column
  match here.rest with
  | [] => s.fetchEnd
  | sign :: _ =>
    if here.column == 0 && sign == '%' then s.fetchDirective
    else if here.column == 0 && here.atWord Cursor.startMarker then s.fetchMarker .documentStart
    else if here.column == 0 && here.atWord Cursor.endMarker then s.fetchMarker .documentEnd
    else s.fetchSign sign

/-- Whether the first token that is held back may have to wait for the colon of a
    key. -/
def isWaiting (s : Scan) : Bool :=
  s.keys.any fun key => key.number == s.taken

/-- The first token that is held back, if it need not wait, and the scan without it. -/
def handOut (s : Scan) : Except Fault (Option (Token × Scan)) :=
  match s.held with
  | [] => return none
  | token :: held => do
    let s ← s.forgetKeys
    if s.isWaiting then return none
    return some (token, { s with held, taken := s.taken + 1 })

/-- The tokens from here on. -/
def tokens : (fuel : Nat) → Scan → Tokens
  | 0, _ => ⟨[], .malformed⟩
  | fuel + 1, s =>
    match s.handOut with
    | .error fault => ⟨[], fault⟩
    | .ok (some (token, next)) =>
      let rest := next.tokens fuel
      { rest with items := token :: rest.items }
    | .ok none =>
      if s.isDone then ⟨[], .malformed⟩
      else match s.fetch with
        | .ok next => next.tokens fuel
        | .error fault => ⟨[], fault⟩

end Scan

/-- The tokens of a text. -/
def Tokens.ofText (text : List Char) : Tokens :=
  Scan.tokens (8 * text.length + 8) { here := .start text }

end UtxoBalance.Yaml
