import UtxoBalance.Bytes.Hex

/-!
# Base58 text of byte strings

The octets are read as one number, most significant first, and the number is
written with fifty-eight digits: letters and figures without `0`, `O`, `I` and
`l`. Each zero octet in front is written as the digit for zero.

## Main definitions

- `Base58.number` — the number behind a byte string
- `Base58.digits` — the base 58 digits of a number
- `Base58.encode` — the text of a byte string
-/

namespace UtxoBalance.Base58

/-- The fifty-eight digits in order of value. -/
def alphabet : List Char :=
  "123456789ABCDEFGHJKLMNPQRSTUVWXYZabcdefghijkmnopqrstuvwxyz".toList

/-- The digit for a value below fifty-eight. -/
def symbol (n : Nat) : Char :=
  alphabet.getD n '1'

/-- The number whose octets, most significant first, are those of the string. -/
def number (bytes : Bytes) : Nat :=
  bytes.foldl (fun acc b => acc * 256 + b.toNat) 0

/-- The values of the base 58 digits of a number, most significant first; zero
    has none. -/
def digits (n : Nat) : List Nat :=
  if n = 0 then [] else digits (n / 58) ++ [n % 58]
termination_by n
decreasing_by omega

/-- The base58 text of a byte string. -/
def encode (bytes : Bytes) : String :=
  let front := bytes.takeWhile (· == 0)
  String.ofList (front.map (fun _ => '1') ++ (digits (number bytes)).map symbol)

end UtxoBalance.Base58
