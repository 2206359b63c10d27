import UtxoBalance.Document.Basic
import UtxoBalance.Number.Numeral

/-!
# Documents in messages

A message shows a value in one line: lists in square brackets, objects in
braces, texts quoted. An integer with too many digits to be written makes the
whole value impossible to show.

## Main definitions

- `Document.shown` — the one-line form of a value
-/

namespace UtxoBalance.Document

mutual

/-- The one-line form of a value. -/
def shown : Document → Except Numeral.Fault String
  | .null => .ok "None"
  | .bool value => .ok (if value then "True" else "False")
  | .int value => Numeral.write value
  | .float value => .ok value.text
  | .text value => .ok (Text.quoted value)
  | .brokenText points => .ok (Text.Raw.broken points).quoted
  | .bytes value => .ok (Text.quotedBytes value)
  | .list items => do return "[" ++ ", ".intercalate (← shownItems items) ++ "]"
  | .object fields => do
    return "\x7b" ++ ", ".intercalate (← shownFields fields) ++ "\x7d"

/-- The one-line forms of the items of a list. -/
def shownItems : List Document → Except Numeral.Fault (List String)
  | [] => .ok []
  | item :: rest => do
    let first ← shown item
    return first :: (← shownItems rest)

/-- The one-line forms of the fields of an object. -/
def shownFields : Fields → Except Numeral.Fault (List String)
  | [] => .ok []
  | (name, value) :: rest => do
    let first ← shown value
    return (Text.quoted name ++ ": " ++ first) :: (← shownFields rest)

end

end UtxoBalance.Document
