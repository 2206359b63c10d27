import UtxoBalance.Bytes.Hex

/-!
# Bech32 text of byte strings

A bech32 text is a human-readable part, the separator `1`, the payload in groups
of five bits, and a checksum of six such groups over both. No limit is set on
the length of the text.

## Main definitions

- `Bech32.fives` — a byte string as groups of five bits
- `Bech32.polymod` — the checksum register after a run of groups
- `Bech32.checksum` — the six groups that close a text
- `Bech32.encode` — the text of a byte string
- `Bech32.octets?` — a list of integers as a byte string
-/

namespace UtxoBalance.Bech32

/-- The thirty-two symbols in order of value. -/
def alphabet : List Char :=
  "qpzry9x8gf2tvdw0s3jn54khce6mua7l".toList

/-- The symbol for a group of five bits. -/
def symbol (n : Nat) : Char :=
  alphabet.getD n 'q'

/-- The low `width` bits of a number, high bit first. -/
def bits : (width : Nat) → Nat → List Bool
  | 0, _ => []
  | width + 1, n => n.testBit width :: bits width n

/-- The number whose bits, high bit first, are given. -/
def value (bits : List Bool) : Nat :=
  bits.foldl (fun acc b => 2 * acc + b.toNat) 0

/-- Bits in groups of five, the last group filled up with zeros. -/
def regroup : List Bool → List Nat
  | [] => []
  | a :: b :: c :: d :: e :: rest => value [a, b, c, d, e] :: regroup rest
  | short => [value (short ++ List.replicate (5 - short.length) false)]

/-- A byte string as groups of five bits. -/
def fives (bytes : Bytes) : List Nat :=
  regroup (bytes.flatMap fun b => bits 8 b.toNat)

/-- What each of the five top bits adds to the checksum register. -/
def generators : List Nat :=
  [0x3b6a57b2, 0x26508e6d, 0x1ea119fa, 0x3d4233dd, 0x2a1462b3]

/-- The checksum register after one more group. -/
def step (register group : Nat) : Nat :=
  let top := register >>> 25
  let shifted := ((register &&& 0x1ffffff) <<< 5) ^^^ group
  (generators.zipIdx.filter fun (_, i) => top.testBit i).foldl
    (fun acc (generator, _) => acc ^^^ generator) shifted

/-- The checksum register after a run of groups. -/
def polymod (groups : List Nat) : Nat :=
  groups.foldl step 1

/-- The human-readable part as it enters the checksum: the high bits of every
    character, a zero, and the low five bits of every character. -/
def expand (readable : String) : List Nat :=
  readable.toList.map (·.toNat >>> 5) ++ 0 :: readable.toList.map (·.toNat &&& 31)

/-- The six groups that close a text. -/
def checksum (readable : String) (groups : List Nat) : List Nat :=
  let register := polymod (expand readable ++ groups ++ [0, 0, 0, 0, 0, 0]) ^^^ 1
  [5, 4, 3, 2, 1, 0].map fun i => (register >>> (5 * i)) &&& 31

/-- The bech32 text of a byte string behind a human-readable part. -/
def encode (readable : String) (bytes : Bytes) : String :=
  let groups := fives bytes
  readable ++ "1" ++ String.ofList ((groups ++ checksum readable groups).map symbol)

/-- A list of integers as a byte string, if each of them is an octet. -/
def octets? (values : List Int) : Option Bytes :=
  values.mapM fun v => if 0 ≤ v ∧ v < 256 then some (UInt8.ofNat v.toNat) else none

end UtxoBalance.Bech32
