/-!
# Text on a terminal

A terminal takes some sequences of characters as commands. A sequence begins with the
escape character and a bracket, goes on with digits, semicolons and question marks, and
ends with a letter. Text that is not printed on a terminal is printed without them.

## Main definitions

- `Text.withoutControls` — a text without control sequences
-/

namespace UtxoBalance.Text

/-- Whether a character may stand inside a control sequence. -/
def isControlArgument (c : Char) : Bool := c.isDigit || c == ';' || c == '?'

/-- What follows the control sequence behind an escape character, if one stands there. -/
def pastControl? : List Char → Option (List Char)
  | '[' :: rest =>
    match rest.dropWhile isControlArgument with
    | letter :: after => if letter.isAlpha then some after else none
    | [] => none
  | _ => none

/-- The characters without control sequences, `fuel` of them at most. -/
def dropControls : (fuel : Nat) → List Char → List Char
  | 0, chars => chars
  | _, [] => []
  | fuel + 1, c :: rest =>
    if c == '\x1b' then
      match pastControl? rest with
      | some after => dropControls fuel after
      | none => c :: dropControls fuel rest
    else c :: dropControls fuel rest

/-- A text without control sequences. -/
def withoutControls (text : String) : String :=
  let chars := text.toList
  String.ofList (dropControls chars.length chars)

end UtxoBalance.Text
