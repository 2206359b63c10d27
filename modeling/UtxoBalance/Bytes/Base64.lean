import UtxoBalance.Bytes.Hex

/-!
# Base64 text of byte strings

Reading follows one scan with two policies. The strict one refuses any character
outside the alphabet, padding in the wrong place and data after the padding. The
lenient one skips what is not in the alphabet and stops at the first padding
that completes a group of four. Both need the last group to be complete, and
both ignore bits of the last character that no octet uses.

Two alphabets share the scan: the URL-safe one writes `-` and `_` for the `+`
and `/` of the standard one.

## Main definitions

- `Base64.encode`, `Base64.encodeUrl` — the padded texts of a byte string
- `Base64.decodeStrict` — the strict reading of the standard alphabet
- `Base64.decodeLoose` — the lenient reading of the standard alphabet
- `Base64.decodeLenient` — the lenient reading, in which the two alphabets are one
- `Base64.padded` — a text filled up with `=` to a multiple of four characters
-/

namespace UtxoBalance.Base64

/-- Why a text is no base64 text. -/
inductive Fault
  /-- A character outside ASCII. -/
  | notAscii
  /-- The text begins with padding. -/
  | leadingPadding
  /-- A character outside the alphabet. -/
  | notAlphabet
  /-- A data character after padding. -/
  | interruptedPadding
  /-- Something follows the padding that completes the last group. -/
  | excess
  /-- The last group has one data character; `data` counts those of the text. -/
  | lonely (data : Nat)
  /-- The last group has two or three data characters and too little padding. -/
  | incomplete
  deriving DecidableEq, Repr

/-- The wording of a fault. -/
def Fault.message : Fault → String
  | .notAscii => "string argument should contain only ASCII characters"
  | .leadingPadding => "Leading padding not allowed"
  | .notAlphabet => "Only base64 data is allowed"
  | .interruptedPadding => "Discontinuous padding not allowed"
  | .excess => "Excess data after padding"
  | .lonely data =>
    "Invalid base64-encoded string: number of data characters (" ++ toString data ++
      ") cannot be 1 more than a multiple of 4"
  | .incomplete => "Incorrect padding"

/-- The value of a character of the standard alphabet. -/
def value? (c : Char) : Option Nat :=
  if 'A' ≤ c ∧ c ≤ 'Z' then some (c.toNat - 65)
  else if 'a' ≤ c ∧ c ≤ 'z' then some (c.toNat - 71)
  else if '0' ≤ c ∧ c ≤ '9' then some (c.toNat + 4)
  else if c = '+' then some 62
  else if c = '/' then some 63
  else none

/-- The character of the standard alphabet for a value below 64. -/
def symbol (n : Nat) : Char :=
  if n < 26 then Char.ofNat (65 + n)
  else if n < 52 then Char.ofNat (71 + n)
  else if n < 62 then Char.ofNat (n - 4)
  else if n = 62 then '+'
  else '/'

/-- The groups of four characters for a byte string, the last one padded. -/
def groups : Bytes → List Char
  | [] => []
  | [a] => [symbol (a.toNat / 4), symbol (a.toNat % 4 * 16), '=', '=']
  | [a, b] =>
    [symbol (a.toNat / 4), symbol (a.toNat % 4 * 16 + b.toNat / 16),
      symbol (b.toNat % 16 * 4), '=']
  | a :: b :: c :: rest =>
    symbol (a.toNat / 4) :: symbol (a.toNat % 4 * 16 + b.toNat / 16) ::
      symbol (b.toNat % 16 * 4 + c.toNat / 64) :: symbol (c.toNat % 64) :: groups rest

/-- The standard text of a byte string. -/
def encode (bytes : Bytes) : String :=
  String.ofList (groups bytes)

/-- The standard character for a URL-safe one. -/
def ofUrl (c : Char) : Char :=
  if c = '-' then '+' else if c = '_' then '/' else c

/-- The URL-safe character for a standard one. -/
def toUrl (c : Char) : Char :=
  if c = '+' then '-' else if c = '/' then '_' else c

/-- The URL-safe text of a byte string. -/
def encodeUrl (bytes : Bytes) : String :=
  String.ofList ((groups bytes).map toUrl)

/-- Where a scan stands inside a group of four: the data characters it has read
    of the group and the bits of theirs that no octet has used yet. -/
inductive Group
  /-- No character of the group read. -/
  | empty
  /-- One read; six bits wait. -/
  | one (bits : Nat)
  /-- Two read; four bits wait. -/
  | two (bits : Nat)
  /-- Three read; two bits wait. -/
  | three (bits : Nat)
  deriving DecidableEq, Repr

/-- The group after the data character of value `v`, and the octet it completes. -/
def Group.push (v : Nat) : Group → Group × Option UInt8
  | .empty => (.one v, none)
  | .one bits => (.two (v % 16), some (UInt8.ofNat (bits * 4 + v / 16)))
  | .two bits => (.three (v % 4), some (UInt8.ofNat (bits * 16 + v / 4)))
  | .three bits => (.empty, some (UInt8.ofNat (bits * 64 + v)))

/-- Whether `pads` signs of padding complete the group. -/
def Group.isCompletedBy (pads : Nat) : Group → Bool
  | .two _ => 2 ≤ pads
  | .three _ => 1 ≤ pads
  | _ => false

/-- What the end of the text says of the group it cuts off, after `octets`
    octets. -/
def Group.finish (octets : Nat) : Group → Except Fault Unit
  | .empty => .ok ()
  | .one _ => .error (.lonely (octets / 3 * 4 + 1))
  | _ => .error .incomplete

/-- The state of a scan between characters. -/
structure Scan where
  /-- The group that is being read. -/
  group : Group := .empty
  /-- Padding read since the last data character. -/
  pads : Nat := 0
  /-- Whether any padding has been read. -/
  padded : Bool := false
  /-- Octets completed so far, the last one first. -/
  octets : Bytes := []

/-- Reads the characters of a text one by one, under the strict policy or the
    lenient one. -/
def scan (strict : Bool) : Scan → List Char → Except Fault Bytes
  | s, [] => do
    s.group.finish s.octets.length
    return s.octets.reverse
  | s, c :: rest =>
    if c = '=' then
      let pads := match s.group with
        | .two _ | .three _ => s.pads + 1
        | _ => s.pads
      if s.group.isCompletedBy pads then
        if strict && !rest.isEmpty then .error .excess else .ok s.octets.reverse
      else scan strict { s with pads, padded := true } rest
    else match value? c with
      | none => if strict then .error .notAlphabet else scan strict s rest
      | some v =>
        if strict && s.padded then .error .interruptedPadding
        else
          let (group, octet) := s.group.push v
          scan strict { s with group, pads := 0, octets := octet.toList ++ s.octets } rest

/-- A text filled up with `=` to a multiple of four characters. -/
def padded (text : String) : String :=
  String.ofList (text.toList ++ List.replicate ((4 - text.length % 4) % 4) '=')

/-- Whether every character of a text is in ASCII. -/
def isAscii (text : String) : Bool :=
  text.toList.all fun c => c.toNat < 0x80

/-- The strict reading of a text in the standard alphabet. -/
def decodeStrict (text : String) : Except Fault Bytes :=
  if !isAscii text then .error .notAscii
  else if text.toList.head? = some '=' then .error .leadingPadding
  else scan true {} text.toList

/-- The lenient reading of a text in the standard alphabet. -/
def decodeLoose (text : String) : Except Fault Bytes :=
  if !isAscii text then .error .notAscii
  else scan false {} text.toList

/-- The lenient reading of a text, with `-` and `_` read as `+` and `/`. -/
def decodeLenient (text : String) : Except Fault Bytes :=
  if !isAscii text then .error .notAscii
  else scan false {} (text.toList.map ofUrl)

end UtxoBalance.Base64
