import UtxoBalance.Bytes.Hex

/-!
# Reading UTF-8

A byte string is read character by character. The first octets that begin no
character end the reading, with their position and one of three reasons.

## Main definitions

- `Utf8.Fault` — where and why a byte string is no UTF-8 text
- `Utf8.decode` — the characters of a byte string
-/

namespace UtxoBalance.Utf8

/-- What is wrong with the octets at the fault. -/
inductive Reason
  /-- No character begins with this octet. -/
  | invalidStart
  /-- The octet after these does not continue their character. -/
  | invalidContinuation
  /-- The text ends inside a character. -/
  | unexpectedEnd
  deriving DecidableEq, Repr

/-- The wording of a reason. -/
def Reason.message : Reason → String
  | .invalidStart => "invalid start byte"
  | .invalidContinuation => "invalid continuation byte"
  | .unexpectedEnd => "unexpected end of data"

/-- Octets that begin no character. -/
structure Fault where
  /-- The position of the first of them. -/
  position : Nat
  /-- The first of them. -/
  octet : UInt8
  /-- How many octets are at fault. -/
  length : Nat
  /-- What is wrong with them. -/
  reason : Reason
  deriving DecidableEq, Repr

/-- The wording of a fault: one octet is shown, several are only located. -/
def Fault.message (f : Fault) : String :=
  let place :=
    if f.length = 1 then
      "byte 0x" ++ Hex.encode [f.octet] ++ " in position " ++ toString f.position
    else
      "bytes in position " ++ toString f.position ++ "-" ++
        toString (f.position + f.length - 1)
  "'utf-8' codec can't decode " ++ place ++ ": " ++ f.reason.message

/-- The number of octets after the first one of a character, with the least and
    the greatest octet that may come second. -/
def lead? (b : Nat) : Option (Nat × Nat × Nat) :=
  if b < 0x80 then some (0, 0x80, 0xBF)
  else if b < 0xC2 then none
  else if b < 0xE0 then some (1, 0x80, 0xBF)
  else if b = 0xE0 then some (2, 0xA0, 0xBF)
  else if b = 0xED then some (2, 0x80, 0x9F)
  else if b < 0xF0 then some (2, 0x80, 0xBF)
  else if b = 0xF0 then some (3, 0x90, 0xBF)
  else if b < 0xF4 then some (3, 0x80, 0xBF)
  else if b = 0xF4 then some (3, 0x80, 0x8F)
  else none

/-- The bits that the first octet of a character of `more + 1` octets holds. -/
def leadBits (more b : Nat) : Nat :=
  match more with
  | 0 => b
  | 1 => b % 0x20
  | 2 => b % 0x10
  | _ => b % 0x08

/-- A character that is being read. -/
structure Partial where
  /-- The position of its first octet. -/
  position : Nat
  /-- Its first octet. -/
  octet : UInt8
  /-- How many of its octets have been read. -/
  length : Nat
  /-- How many octets it still needs. -/
  more : Nat
  /-- The least octet that may come next. -/
  low : Nat
  /-- The greatest octet that may come next. -/
  high : Nat
  /-- The code point read so far. -/
  code : Nat
  deriving DecidableEq, Repr

/-- The fault of a character that breaks off. -/
def Partial.fault (p : Partial) (reason : Reason) : Fault :=
  { position := p.position, octet := p.octet, length := p.length, reason }

/-- Reads octets from `position` on, inside a character or between two. -/
def scan (position : Nat) : Option Partial → Bytes → Except Fault (List Char)
  | none, [] => .ok []
  | some p, [] => .error (p.fault .unexpectedEnd)
  | none, b :: rest => match lead? b.toNat with
    | none => .error { position, octet := b, length := 1, reason := .invalidStart }
    | some (0, _, _) => (scan (position + 1) none rest).map (Char.ofNat b.toNat :: ·)
    | some (more, low, high) =>
      scan (position + 1)
        (some { position, octet := b, length := 1, more, low, high,
                code := leadBits more b.toNat }) rest
  | some p, b :: rest =>
    if p.low ≤ b.toNat ∧ b.toNat ≤ p.high then
      let code := p.code * 64 + b.toNat % 64
      if p.more ≤ 1 then (scan (position + 1) none rest).map (Char.ofNat code :: ·)
      else
        scan (position + 1)
          (some { p with length := p.length + 1, more := p.more - 1, low := 0x80,
                         high := 0xBF, code }) rest
    else .error (p.fault .invalidContinuation)

/-- The characters of a byte string in UTF-8. -/
def decode (bytes : Bytes) : Except Fault (List Char) :=
  scan 0 none bytes

end UtxoBalance.Utf8
