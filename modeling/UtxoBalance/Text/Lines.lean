/-!
# Lines of a text

A text file may end its lines with a line feed, a carriage return, or both; all
three are read as a line feed. A place in a text is named by its line and
column, both counted from one, and its offset, counted from zero.

## Main definitions

- `Text.unifyNewlines` — every line end as a line feed
- `Text.Place`, `Text.placeOf` — a place in a text
- `Text.splitLines` — the lines of a text, by every sign that ends one
-/

namespace UtxoBalance.Text

/-- Every line end as a line feed. -/
def unifyNewlines : List Char → List Char
  | [] => []
  | '\r' :: '\n' :: rest => '\n' :: unifyNewlines rest
  | c :: rest => (if c = '\r' then '\n' else c) :: unifyNewlines rest

/-- A place in a text. -/
structure Place where
  /-- The line, counted from one. -/
  line : Nat
  /-- The column in the line, counted from one. -/
  column : Nat
  /-- The number of characters before the place. -/
  offset : Nat
  deriving DecidableEq, Repr

/-- The place before the character at `offset`. -/
def placeOf (text : List Char) (offset : Nat) : Place :=
  let before := text.take offset
  { line := before.count '\n' + 1
    column := (before.reverse.takeWhile (· != '\n')).length + 1
    offset }

/-- The wording of a place. -/
def Place.message (p : Place) : String :=
  "line " ++ toString p.line ++ " column " ++ toString p.column ++ " (char " ++
    toString p.offset ++ ")"

/-- The signs that end a line of printed text: the feeds, the carriage return,
    the three information separators, the next-line sign and the two separators. -/
def isLineEnd (c : Char) : Bool :=
  let n := c.toNat
  (0x0A ≤ n && n ≤ 0x0D) || (0x1C ≤ n && n ≤ 0x1E) || n == 0x85 || n == 0x2028 ||
    n == 0x2029

/-- The lines of a text, without the signs that end them. -/
def splitLines (text : List Char) : List (List Char) :=
  let (current, done) := (unifyNewlines text).foldr (fun c (current, done) =>
    if isLineEnd c then ([], current :: done) else (c :: current, done)) ([], [])
  current :: done

end UtxoBalance.Text
