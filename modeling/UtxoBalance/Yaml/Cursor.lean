/-!
# Cursors in YAML texts

The layout of a YAML text carries meaning, so a reader has to know at which line
and column it stands. A cursor holds what is left of the text with its place.

## Main definitions

- `Cursor` — what is left of a text, and where
- `Cursor.toToken` — past spaces, comments and line breaks
- `Cursor.atMarker` — whether a document ends here
-/

namespace UtxoBalance.Yaml

/-- Whether a character is allowed in a YAML text. -/
def isAllowed (c : Char) : Bool :=
  let n := c.toNat
  n == 0x09 || n == 0x0A || n == 0x0D || (0x20 ≤ n && n ≤ 0x7E) || n == 0x85 ||
    (0xA0 ≤ n && n ≤ 0xD7FF) || (0xE000 ≤ n && n ≤ 0xFFFD) || 0x10000 ≤ n

/-- Whether a character breaks a line. -/
def isBreak (c : Char) : Bool :=
  c == '\n' || c == '\x85' || c == '\u2028' || c == '\u2029'

/-- The break as it stands in a scalar: the two that separate lines or paragraphs
    stay, and any other becomes a line feed. -/
def breakText (c : Char) : Char :=
  if c == '\u2028' || c == '\u2029' then c else '\n'

/-- Whether a character is a space, a tab or a break. -/
def isGap (c : Char) : Bool :=
  c == ' ' || c == '\t' || isBreak c

/-- Whether a rest of a text is empty or begins with a gap. -/
def gapOrEnd (rest : List Char) : Bool :=
  rest.head?.all isGap

/-- What is left of a text, and where. -/
structure Cursor where
  /-- The characters that are left. -/
  rest : List Char
  /-- The number of characters before the place. -/
  index : Nat := 0
  /-- The line, counted from zero. -/
  line : Nat := 0
  /-- The column in the line, counted from zero. -/
  column : Nat := 0
  deriving Repr, Inhabited

namespace Cursor

/-- The cursor at the beginning of a text. -/
def start (text : List Char) : Cursor := { rest := text }

/-- Past one character. A byte order mark takes no column. -/
def next (c : Cursor) : Cursor :=
  match c.rest with
  | [] => c
  | char :: rest =>
    if isBreak char then { rest, index := c.index + 1, line := c.line + 1, column := 0 }
    else
      let column := if char == '\ufeff' then c.column else c.column + 1
      { rest, index := c.index + 1, line := c.line, column }

/-- Past a number of characters. -/
def skip : (count : Nat) → Cursor → Cursor
  | 0, c => c
  | count + 1, c => c.next.skip count

/-- The leading characters with a property. -/
def run (p : Char → Bool) (c : Cursor) : List Char := c.rest.takeWhile p

/-- Past the leading characters with a property. -/
def pastRun (p : Char → Bool) (c : Cursor) : Cursor := c.skip (c.run p).length

/-- Past the spaces. -/
def pastSpaces (c : Cursor) : Cursor := c.pastRun (· == ' ')

/-- Past the rest of the line. -/
def pastLine (c : Cursor) : Cursor := c.pastRun (!isBreak ·)

/-- Past spaces and a comment. -/
def pastComment (c : Cursor) : Cursor :=
  let inner := c.pastSpaces
  if inner.rest.head? == some '#' then inner.pastLine else inner

/-- At what comes after spaces, comments and breaks, with the number of breaks,
    `fuel` of them at most. A tab is no space. -/
def pastGaps : (fuel : Nat) → Cursor → Nat × Cursor
  | 0, c => (0, c)
  | fuel + 1, c =>
    let inner := c.pastComment
    match inner.rest with
    | char :: _ =>
      if isBreak char then
        let (count, stop) := pastGaps fuel inner.next
        (count + 1, stop)
      else (0, inner)
    | [] => (0, inner)

/-- At what comes after spaces, comments and breaks, with the number of breaks. A byte
    order mark in front of the text is passed over. -/
def toToken (c : Cursor) : Nat × Cursor :=
  let c := if c.index == 0 && c.rest.head? == some '\ufeff' then c.next else c
  pastGaps (c.rest.length + 1) c

/-- Whether a word stands here, with a gap or the end behind it. -/
def atWord (word : List Char) (c : Cursor) : Bool :=
  word.isPrefixOf c.rest && gapOrEnd (c.rest.drop word.length)

/-- What stands in front of a document. -/
def startMarker : List Char := ['-', '-', '-']

/-- What stands behind a document. -/
def endMarker : List Char := ['.', '.', '.']

/-- Whether one of the two markers between documents stands here, at the beginning of
    a line. -/
def atMarker (c : Cursor) : Bool :=
  c.column == 0 && (c.atWord startMarker || c.atWord endMarker)

/-- Whether a sign that needs a gap behind it stands here. -/
def atSign (sign : Char) (c : Cursor) : Bool := c.atWord [sign]

end Cursor

end UtxoBalance.Yaml
