import UtxoBalance.Document.Basic
import UtxoBalance.Text.Quoted

/-!
# Writing JSON

A document is written on one line without blanks. Whatever lies outside
printable ASCII is escaped, so a line feed never appears in the text; a
character beyond the first plane is written as a surrogate pair.

## Main definitions

- `Json.quoteChars` — the characters of a text between quotes
- `Json.write` — the JSON text of a document
-/

namespace UtxoBalance.Json

/-- The escape of one code unit. -/
def unitEscape (unit : Nat) : List Char :=
  '\\' :: 'u' :: Text.hexDigits 4 unit

/-- One character of a text between quotes. -/
def quoteChar (c : Char) : List Char :=
  if c = '"' then ['\\', '"']
  else if c = '\\' then ['\\', '\\']
  else if c = '\n' then ['\\', 'n']
  else if c = '\r' then ['\\', 'r']
  else if c = '\t' then ['\\', 't']
  else if c = '\x08' then ['\\', 'b']
  else if c = '\x0c' then ['\\', 'f']
  else if 0x20 ≤ c.toNat ∧ c.toNat < 0x7F then [c]
  else if c.toNat < 0x10000 then unitEscape c.toNat
  else
    let offset := c.toNat - 0x10000
    unitEscape (0xD800 + offset / 0x400) ++ unitEscape (0xDC00 + offset % 0x400)

/-- The characters of a text between quotes. -/
def quoteChars (chars : List Char) : List Char :=
  '"' :: (chars.flatMap quoteChar ++ ['"'])

/-- One code point of a text between quotes; a half of a surrogate pair is written as
    an escape. -/
def quotePoint (point : Nat) : List Char :=
  if Text.isCharacter point then quoteChar (Char.ofNat point) else unitEscape point

/-- The written form of a floating-point number. -/
def floatText : Binary64 → String
  | .nan => "NaN"
  | .infinite negative => if negative then "-Infinity" else "Infinity"
  | x => x.text

mutual

/-- The characters of the JSON text of a document. A byte string is written as
    its hexadecimal text. -/
def writeChars : Document → List Char
  | .null => "null".toList
  | .bool value => (if value then "true" else "false").toList
  | .int value => (toString value).toList
  | .float value => (floatText value).toList
  | .text value => quoteChars value.toList
  | .brokenText points => '"' :: (points.flatMap quotePoint ++ ['"'])
  | .bytes value => quoteChars (Hex.encode value).toList
  | .list items => '[' :: (writeItems items ++ [']'])
  | .object fields => '\x7b' :: (writeFields fields ++ ['\x7d'])

/-- The items of a list with commas between them. -/
def writeItems : List Document → List Char
  | [] => []
  | [item] => writeChars item
  | item :: rest => writeChars item ++ ',' :: writeItems rest

/-- The fields of an object with commas between them. -/
def writeFields : Fields → List Char
  | [] => []
  | [(name, value)] => quoteChars name.toList ++ ':' :: writeChars value
  | (name, value) :: rest =>
    quoteChars name.toList ++ ':' :: (writeChars value ++ ',' :: writeFields rest)

end

/-- The JSON text of a document. -/
def write (d : Document) : String :=
  String.ofList (writeChars d)

end UtxoBalance.Json
