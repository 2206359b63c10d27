import UtxoBalance.Bytes.Hex
import UtxoBalance.Text.Printable

/-!
# Quoted text

How messages quote a text: between single quotes, or between double quotes when
the text holds a single quote and no double one. A quote that would close the
text, the backslash, and every character that is not printable are written as
escapes.

## Main definitions

- `Text.quoted` — the quoted form of a text
- `Text.quotedBytes` — the quoted form of a byte string
-/

namespace UtxoBalance.Text

/-- The last `width` hexadecimal digits of a number. -/
def hexDigits : (width : Nat) → Nat → List Char
  | 0, _ => []
  | width + 1, n => hexDigits width (n / 16) ++ [Hex.digit (n % 16)]

/-- The escape of a character that cannot stand as itself, as short as its code
    point allows: two, four or eight digits. -/
def escapeCode (n : Nat) : List Char :=
  if n < 0x100 then '\\' :: 'x' :: hexDigits 2 n
  else if n < 0x10000 then '\\' :: 'u' :: hexDigits 4 n
  else '\\' :: 'U' :: hexDigits 8 n

/-- One character between quotes of the kind `quote`. -/
def quotedChar (quote c : Char) : List Char :=
  if c == quote || c == '\\' then ['\\', c]
  else if c == '\n' then ['\\', 'n']
  else if c == '\r' then ['\\', 'r']
  else if c == '\t' then ['\\', 't']
  else if isPrintable c then [c]
  else escapeCode c.toNat

/-- The quote that surrounds a text: the double one exactly when the text holds
    a single quote and no double quote. -/
def quoteFor (chars : List Char) : Char :=
  if chars.contains '\'' && !chars.contains '"' then '"' else '\''

/-- The quoted form of a text. -/
def quoted (text : String) : String :=
  let chars := text.toList
  let quote := quoteFor chars
  String.ofList (quote :: chars.flatMap (quotedChar quote) ++ [quote])

/-- The quoted form of a byte string: octets outside printable ASCII are escaped,
    and a letter before the quote marks it as bytes. -/
def quotedBytes (bytes : Bytes) : String :=
  let chars := bytes.map fun b => Char.ofNat b.toNat
  let quote := quoteFor chars
  let body := chars.flatMap fun c =>
    if 0x7F ≤ c.toNat then escapeCode c.toNat else quotedChar quote c
  String.ofList ('b' :: quote :: body ++ [quote])

end UtxoBalance.Text
