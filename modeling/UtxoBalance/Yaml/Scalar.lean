import UtxoBalance.Yaml.Cursor
import UtxoBalance.Yaml.Fault

/-!
# Scalars in YAML texts

A scalar is written plainly, between quotes, or as a block of lines. A plain or
quoted scalar may run over several lines: a single break between two of them
becomes a space, and of several breaks the first is dropped.

## Main definitions

- `Cursor.plain` — a plain scalar
- `Cursor.quoted` — the rest of a quoted scalar
- `Cursor.block` — a block of lines
-/

namespace UtxoBalance.Yaml

/-- What a run of breaks inside a scalar becomes, given the first and those after
    it. -/
def foldBreaks (first : Char) (others : List Char) : List Char :=
  if breakText first != '\n' then breakText first :: others
  else if others.isEmpty then [' ']
  else others

/-- Whether a character is a space or a tab. -/
def isSpaceOrTab (c : Char) : Bool := c == ' ' || c == '\t'

/-! ### Plain scalars -/

/-- Whether a character that follows a colon makes it the end of a key. -/
def endsKey (inFlow : Bool) : Option Char → Bool
  | none => true
  | some c => isGap c || (inFlow && (c == ',' || c == '[' || c == ']' || c == '\x7b' || c == '\x7d'))

/-- Whether a character ends plain text between brackets. -/
def endsPlainInFlow (c : Char) : Bool :=
  c == ',' || c == '?' || c == '[' || c == ']' || c == '\x7b' || c == '\x7d'

/-- The leading characters up to a gap, the colon of a key, or a bracket's sign. -/
def plainRun (inFlow : Bool) : List Char → List Char
  | [] => []
  | c :: rest =>
    if isGap c || (c == ':' && endsKey inFlow rest.head?) || (inFlow && endsPlainInFlow c) then []
    else c :: plainRun inFlow rest

/-- The signs that no plain scalar begins with, whatever follows. -/
def reservedSigns : List Char :=
  [',', '[', ']', '\x7b', '\x7d', '#', '&', '*', '!', '|', '>', '\'', '"', '%', '@', '\x60']

/-- Whether a plain scalar begins here. -/
def beginsPlain (inFlow : Bool) : List Char → Bool
  | [] => false
  | c :: rest =>
    if isGap c then false
    else if c == '-' then !gapOrEnd rest
    else if c == '?' || c == ':' then !inFlow && !gapOrEnd rest
    else !reservedSigns.contains c

namespace Cursor

/-- The breaks of the lines that hold nothing but spaces, and the place after them.
    A marker between documents stops the search and leaves no breaks. -/
def plainBreaks : (fuel : Nat) → Cursor → Option (List Char) × Cursor
  | 0, c => (some [], c)
  | fuel + 1, c =>
    if c.atMarker then (none, c)
    else
      let inner := c.pastSpaces
      match inner.rest with
      | char :: _ =>
        if isBreak char then
          let (breaks, after) := plainBreaks fuel inner.next
          (breaks.map (breakText char :: ·), after)
        else (some [], inner)
      | [] => (some [], inner)

/-- What stands between two runs of plain text, and the place after it: nothing if
    the scalar ends. -/
def plainGap (c : Cursor) : List Char × Cursor :=
  let spaces := c.run (· == ' ')
  let after := c.pastSpaces
  match after.rest with
  | char :: _ =>
    if isBreak char then
      match plainBreaks (after.rest.length + 1) after.next with
      | (some breaks, stop) => (foldBreaks char breaks, stop)
      | (none, stop) => ([], stop)
    else (spaces, after)
  | [] => ([], after)

/-- A plain scalar with the place after it and the gap behind it. -/
structure Plain where
  /-- The characters. -/
  chars : List Char
  /-- Whether a break stands behind it. -/
  endsLine : Bool
  /-- The place after the gap behind it. -/
  stop : Cursor

/-- The runs of a plain scalar with what stands between them, after `gap`, which held a
    break or not. Outside brackets its lines begin at column `level` at least. -/
def plainRuns (inFlow : Bool) (level : Nat) : (fuel : Nat) → (gap : List Char) →
    (crossed : Bool) → Cursor → Plain
  | 0, _, crossed, c => ⟨[], crossed, c⟩
  | fuel + 1, gap, crossed, c =>
    let text := plainRun inFlow c.rest
    if text.isEmpty || c.rest.head? == some '#' then ⟨[], crossed, c⟩
    else
      let inner := c.skip text.length
      let (between, after) := inner.plainGap
      let crossed := inner.line != after.line
      let ends := between.isEmpty || after.rest.head? == some '#' ||
        (!inFlow && after.column < level)
      if ends then ⟨gap ++ text, crossed, after⟩
      else
        let more := plainRuns inFlow level fuel between crossed after
        { more with chars := gap ++ text ++ more.chars }

/-- A plain scalar. -/
def plain (inFlow : Bool) (level : Nat) (c : Cursor) : Plain :=
  plainRuns inFlow level (c.rest.length + 1) [] false c

/-! ### Quoted scalars -/

/-- The breaks of the lines that hold nothing but spaces and tabs, and the place
    after them. No marker between documents may stand there. -/
def quotedBreaks : (fuel : Nat) → Cursor → Except Fault (List Char × Cursor)
  | 0, _ => throw .malformed
  | fuel + 1, c =>
    if c.atMarker then throw .malformed
    else
      let inner := c.pastRun isSpaceOrTab
      match inner.rest with
      | char :: _ =>
        if isBreak char then do
          let (breaks, after) ← quotedBreaks fuel inner.next
          return (breakText char :: breaks, after)
        else return ([], inner)
      | [] => return ([], inner)

/-- What the gap that begins here becomes inside quotes, and the place after it. -/
def quotedGap (c : Cursor) : Except Fault (List Char × Cursor) :=
  let after := c.pastRun isSpaceOrTab
  match after.rest with
  | [] => throw .malformed
  | char :: _ =>
    if isBreak char then do
      let (breaks, stop) ← quotedBreaks (after.rest.length + 1) after.next
      return (foldBreaks char breaks, stop)
    else return (c.run isSpaceOrTab, after)

end Cursor

/-- The character that a one-letter escape stands for. -/
def escaped? : Char → Option Char
  | '0' => some '\x00'
  | 'a' => some '\x07'
  | 'b' => some '\x08'
  | 't' => some '\t'
  | '\t' => some '\t'
  | 'n' => some '\n'
  | 'v' => some '\x0b'
  | 'f' => some '\x0c'
  | 'r' => some '\r'
  | 'e' => some '\x1b'
  | ' ' => some ' '
  | '"' => some '"'
  | '\\' => some '\\'
  | '/' => some '/'
  | 'N' => some '\x85'
  | '_' => some '\xa0'
  | 'L' => some '\u2028'
  | 'P' => some '\u2029'
  | _ => none

/-- The number of digits of a numbered escape. -/
def escapeDigits? : Char → Option Nat
  | 'x' => some 2
  | 'u' => some 4
  | 'U' => some 8
  | _ => none

/-- The number that hexadecimal digits write. -/
def hexNumber? (digits : List Char) : Option Nat :=
  digits.foldlM (fun n d => (Hex.value? d).map (n * 16 + ·)) 0

/-- A number as the code point of an escape. -/
def checkPoint (number : Nat) : Except Fault Nat :=
  if number < 0x110000 then return number else throw (.codePoint number)

namespace Cursor

/-- What the escape after a backslash becomes, and the place after it. A break that
    is escaped leaves nothing but the empty lines after it. -/
def escape (c : Cursor) : Except Fault (List Nat × Cursor) :=
  match c.rest with
  | [] => throw .malformed
  | letter :: rest =>
    match escaped? letter, escapeDigits? letter with
    | some char, _ => return ([char.toNat], c.next)
    | none, some count => do
      let digits := rest.take count
      match if digits.length < count then none else hexNumber? digits with
      | some number => return ([← checkPoint number], c.skip (count + 1))
      | none => throw .malformed
    | none, none =>
      if isBreak letter then do
        let (breaks, stop) ← quotedBreaks (rest.length + 1) c.next
        return (breaks.map Char.toNat, stop)
      else throw .malformed

/-- The code points of a quoted scalar after its opening quote, and the place after
    its closing quote. Between double quotes a backslash begins an escape; between
    single quotes a quote is written twice. -/
def quotedPoints (isDouble : Bool) : (fuel : Nat) → Cursor → Except Fault (List Nat × Cursor)
  | 0, _ => throw .malformed
  | fuel + 1, c =>
    match c.rest with
    | [] => throw .malformed
    | char :: rest =>
      if isGap char then do
        let (gap, after) ← c.quotedGap
        let (points, stop) ← quotedPoints isDouble fuel after
        return (gap.map Char.toNat ++ points, stop)
      else if isDouble && char == '\\' then do
        let (escape, after) ← c.next.escape
        let (points, stop) ← quotedPoints isDouble fuel after
        return (escape ++ points, stop)
      else if char == (if isDouble then '"' else '\'') then
        if !isDouble && rest.head? == some '\'' then do
          let (points, stop) ← quotedPoints isDouble fuel (c.skip 2)
          return ('\''.toNat :: points, stop)
        else return ([], c.next)
      else do
        let (points, stop) ← quotedPoints isDouble fuel c.next
        return (char.toNat :: points, stop)

/-- A quoted scalar after its opening quote, and the place after it. -/
def quoted (isDouble : Bool) (c : Cursor) : Except Fault (Text.Raw × Cursor) := do
  let (points, stop) ← quotedPoints isDouble (c.rest.length + 1) c
  return (.ofPoints points, stop)

/-! ### Blocks of lines -/

/-- What happens to the breaks at the end of a block. -/
inductive Chomp
  /-- One is kept. -/
  | clip
  /-- None is kept. -/
  | strip
  /-- All are kept. -/
  | keep
  deriving DecidableEq, Repr

/-- The signs in the head of a block, in either order: what happens to the last
    breaks, and how far the lines are indented. -/
def blockSigns : List Char → Chomp × Option Nat × Nat
  | a :: b :: _ =>
    match chompOf? a, chompOf? b with
    | some chomp, _ => if isIndent b then (chomp, some (indentOf b), 2) else (chomp, none, 1)
    | none, chomp? =>
      if isIndent a then
        match chomp? with
        | some chomp => (chomp, some (indentOf a), 2)
        | none => (.clip, some (indentOf a), 1)
      else (.clip, none, 0)
  | [a] => match chompOf? a with
    | some chomp => (chomp, none, 1)
    | none => if isIndent a then (.clip, some (indentOf a), 1) else (.clip, none, 0)
  | [] => (.clip, none, 0)
where
  /-- The sign for what happens to the last breaks. -/
  chompOf? : Char → Option Chomp
    | '+' => some .keep
    | '-' => some .strip
    | _ => none
  /-- Whether a character is a digit that names an indentation. -/
  isIndent (c : Char) : Bool := '1' ≤ c && c ≤ '9'
  /-- The indentation that a digit names. -/
  indentOf (c : Char) : Nat := c.toNat - 48

/-- Past spaces, up to a column. -/
def pastIndent (indent : Nat) (c : Cursor) : Cursor :=
  c.skip (min (c.run (· == ' ')).length (indent - c.column))

/-- The empty lines in front of a line of a block, and the place after them. -/
def blockBreaks (indent : Nat) : (fuel : Nat) → Cursor → List Char × Cursor
  | 0, c => ([], c)
  | fuel + 1, c =>
    let inner := c.pastIndent indent
    match inner.rest with
    | char :: _ =>
      if isBreak char then
        let (breaks, stop) := blockBreaks indent fuel inner.next
        (breakText char :: breaks, stop)
      else ([], inner)
    | [] => ([], inner)

/-- The greatest column that the empty lines and the first line of a block reach. -/
def blockIndent : (fuel : Nat) → Cursor → Nat
  | 0, _ => 0
  | fuel + 1, c =>
    let inner := c.pastSpaces
    match inner.rest with
    | char :: _ =>
      if isBreak char then max inner.column (blockIndent fuel inner.next) else inner.column
    | [] => inner.column

/-- The lines of a block, with the breaks in front of them. In a folded block a
    single break between two lines that begin with no gap becomes a space. -/
def blockLines (folded : Bool) (chomp : Chomp) (indent : Nat) : (fuel : Nat) →
    (breaks : List Char) → Cursor → List Char × Cursor
  | 0, _, c => ([], c)
  | fuel + 1, breaks, c =>
    if c.column != indent || c.rest.isEmpty then
      (if chomp = .keep then breaks else [], c)
    else
      let line := c.run fun char => !isBreak char
      let stop := c.skip line.length
      let ending := stop.rest.head?.toList.map breakText
      let (more, after) := blockBreaks indent (stop.rest.length + 1) stop.next
      if after.column == indent && !after.rest.isEmpty then
        let folds := folded && ending == ['\n'] && !line.head?.any isGap &&
          !after.rest.head?.any (fun char => char == ' ' || char == '\t')
        let glue := if folds then (if more.isEmpty then [' '] else []) else ending
        let (tail, last) := blockLines folded chomp indent fuel more after
        (breaks ++ line ++ glue ++ tail, last)
      else
        let ending := if chomp = .strip then [] else ending
        let tail := if chomp = .keep then more else []
        (breaks ++ line ++ ending ++ tail, after)

/-- Past the head of a block: its signs, with a space or the end of the line behind
    them, and perhaps a comment. -/
def pastBlockHead (count : Nat) (c : Cursor) : Except Fault Cursor :=
  let signs := c.skip count
  let stop := signs.pastComment
  let isOver := fun (rest : List Char) => rest.head?.all isBreak
  if (isOver signs.rest || signs.rest.head? == some ' ') && isOver stop.rest then return stop.next
  else throw .malformed

/-- A block of lines after the sign that begins it, and the place after it. Its
    lines begin at column `level` at least. -/
def block (folded : Bool) (level : Nat) (c : Cursor) : Except Fault (Text.Raw × Cursor) := do
  let (chomp, indent?, count) := blockSigns c.rest
  let body ← c.pastBlockHead count
  let fuel := body.rest.length + 1
  let least := max level 1
  let indent := match indent? with
    | some given => least + given - 1
    | none => max least (blockIndent fuel body)
  let (breaks, first) := blockBreaks indent fuel body
  let (chars, last) := blockLines folded chomp indent fuel breaks first
  return (.ofChars chars, last)

end Cursor

end UtxoBalance.Yaml
