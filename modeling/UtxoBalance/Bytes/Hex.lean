import UtxoBalance.Text.Blank

/-!
# Hexadecimal text of byte strings

Writing gives two lower-case digits per octet. Reading takes digits of either
case in pairs and allows ASCII blanks between the pairs, but not inside one.

## Main definitions

- `Bytes` — a string of octets
- `Hex.encode` — the digits of a byte string
- `Hex.decode` — the byte string behind a text, or the position of the first
  character that rules the text out
-/

namespace UtxoBalance

/-- A string of octets. -/
abbrev Bytes := List UInt8

namespace Hex

/-- The lower-case digit for a value below sixteen. -/
def digit (n : Nat) : Char :=
  if n < 10 then Char.ofNat (48 + n) else Char.ofNat (87 + n)

/-- The two digits of an octet, high half first. -/
def byteDigits (b : UInt8) : List Char :=
  [digit (b.toNat / 16), digit (b.toNat % 16)]

/-- The hexadecimal text of a byte string. -/
def encode (bytes : Bytes) : String :=
  String.ofList (bytes.flatMap byteDigits)

/-- The value of a hexadecimal digit of either case. -/
def value? (c : Char) : Option Nat :=
  if '0' ≤ c ∧ c ≤ '9' then some (c.toNat - 48)
  else if 'a' ≤ c ∧ c ≤ 'f' then some (c.toNat - 87)
  else if 'A' ≤ c ∧ c ≤ 'F' then some (c.toNat - 55)
  else none

/-- Reads pairs of digits. The error is the number of characters left when the
    first character that fits no pair is reached. -/
def pairs : List Char → Except Nat Bytes
  | [] => .ok []
  | c :: rest =>
    if Text.isAsciiBlank c then pairs rest
    else match value? c, rest with
      | none, _ => .error (rest.length + 1)
      | some _, [] => .error 0
      | some high, d :: tail => match value? d with
        | none => .error (tail.length + 1)
        | some low => (pairs tail).map (UInt8.ofNat (16 * high + low) :: ·)

/-- The byte string behind a hexadecimal text. The error is the position of the
    first character outside ASCII if there is one, else of the first that fits
    no pair; a digit without its partner is reported at the end. -/
def decode (text : String) : Except Nat Bytes :=
  let chars := text.toList
  match chars.findIdx? fun c => 0x80 ≤ c.toNat with
  | some position => .error position
  | none => (pairs chars).mapError (chars.length - ·)

end Hex

end UtxoBalance
