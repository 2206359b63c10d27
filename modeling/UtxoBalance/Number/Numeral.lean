import UtxoBalance.Text.DecimalDigit
import UtxoBalance.Text.Raw

/-!
# Numerals

Integers are read from and written as decimal numerals of at most 4300 digits.
A numeral may stand between blanks, carry one sign, use the decimal digits of
any script, and separate digits with single underscores. A numeral in a base that is
a power of two has any number of digits and may carry the mark of its base.

## Main definitions

- `Numeral.read` — the integer behind a decimal numeral
- `Numeral.Base`, `Numeral.readIn` — the integer behind a numeral in another base
- `Numeral.write` — the numeral of an integer
- `Numeral.Fault` — why one of the two is refused
-/

namespace UtxoBalance.Numeral

/-- The greatest number of digits that is read or written. -/
def maxDigits : Nat := 4300

/-- Why a numeral is refused. -/
inductive Fault
  /-- The text is no numeral in the base. -/
  | malformed (base : Nat) (text : Text.Raw)
  /-- The numeral has more digits than are read. -/
  | tooManyDigits (count : Nat)
  /-- The integer has more digits than are written. -/
  | tooLarge
  deriving DecidableEq, Repr

/-- The wording of a fault. Of a malformed text the message keeps the first two
    hundred characters of its quoted form. -/
def Fault.message : Fault → String
  | .malformed base text =>
    "invalid literal for int() with base " ++ toString base ++ ": " ++
      String.ofList (text.quoted.toList.take 200)
  | .tooManyDigits count =>
    "Exceeds the limit (4300 digits) for integer string conversion: value has " ++
      toString count ++
      " digits; use sys.set_int_max_str_digits() to increase the limit"
  | .tooLarge =>
    "Exceeds the limit (4300 digits) for integer string conversion; " ++
      "use sys.set_int_max_str_digits() to increase the limit"

/-- A character of a numeral in ASCII: blanks and digits of other scripts become
    those of ASCII, and any other character outside it becomes a question mark. -/
def toAscii (c : Char) : Char :=
  if c.toNat < 0x7F then c
  else if Text.isWideBlank c then ' '
  else match Text.decimalDigit? c with
    | some value => Char.ofNat (48 + value)
    | none => '?'

/-- Whether a character may stand in a run of digits. -/
def isDigitOrMark (c : Char) : Bool :=
  c.isDigit || c == '_'

/-- Whether every underscore in a run stands between two digits, given whether
    a digit comes before the run. -/
def marksSeparate : (afterDigit : Bool) → List Char → Bool
  | afterDigit, [] => afterDigit
  | afterDigit, '_' :: rest => afterDigit && marksSeparate false rest
  | _, _ :: rest => marksSeparate true rest

/-- The sign in front of a numeral, and the rest. -/
def takeSign : List Char → Bool × List Char
  | '-' :: rest => (true, rest)
  | '+' :: rest => (false, rest)
  | chars => (false, chars)

/-- The integer behind a text. Digits are counted, leading zeros included, even
    where something that is no part of a numeral follows them. -/
def read (text : String) : Except Fault Int :=
  let chars := (text.toList.map toAscii).dropWhile Text.isAsciiBlank
  let (negative, unsigned) := takeSign chars
  let run := unsigned.takeWhile isDigitOrMark
  let rest := unsigned.dropWhile isDigitOrMark
  let digits := run.filter (· != '_')
  if !marksSeparate false run then .error (.malformed 10 (.whole text))
  else if maxDigits < digits.length then .error (.tooManyDigits digits.length)
  else if !(rest.dropWhile Text.isAsciiBlank).isEmpty then .error (.malformed 10 (.whole text))
  else
    let magnitude : Int := Nat.ofDigitChars 10 digits 0
    .ok (if negative then -magnitude else magnitude)

/-- A base that is a power of two. -/
inductive Base
  /-- Base two. -/
  | binary
  /-- Base eight. -/
  | octal
  /-- Base sixteen. -/
  | hexadecimal
  deriving DecidableEq, Repr

/-- The number of digits of a base. -/
def Base.size : Base → Nat
  | .binary => 2
  | .octal => 8
  | .hexadecimal => 16

/-- The letter that marks a base, behind a zero. -/
def Base.letter : Base → Char
  | .binary => 'b'
  | .octal => 'o'
  | .hexadecimal => 'x'

/-- The value of a digit in a base. -/
def Base.digit? (base : Base) (c : Char) : Option Nat :=
  (Hex.value? c).filter (· < base.size)

/-- The characters after the mark of a base, behind which one underscore may stand. -/
def Base.pastMark (base : Base) : List Char → List Char
  | '0' :: letter :: rest =>
    if letter.toLower == base.letter then
      match rest with
      | '_' :: digits => digits
      | _ => rest
    else '0' :: letter :: rest
  | chars => chars

/-- The integer behind a numeral in a base. -/
def readIn (base : Base) (text : Text.Raw) : Except Fault Int :=
  let chars := (text.patched.toList.map toAscii).dropWhile Text.isAsciiBlank
  let (negative, unsigned) := takeSign chars
  let unmarked := base.pastMark unsigned
  let isPart := fun c => (base.digit? c).isSome || c == '_'
  let run := unmarked.takeWhile isPart
  let rest := unmarked.dropWhile isPart
  if !marksSeparate false run || !(rest.dropWhile Text.isAsciiBlank).isEmpty then
    .error (.malformed base.size text)
  else
    let magnitude := (run.filterMap base.digit?).foldl (fun n d => n * base.size + d) 0
    .ok (if negative then -(magnitude : Int) else magnitude)

/-- The integer behind a decimal numeral, which may be any text. -/
def readRaw (text : Text.Raw) : Except Fault Int :=
  match text with
  | .whole value => read value
  | .broken _ => match read text.patched with
    | .error (.malformed base _) => .error (.malformed base text)
    | result => result

/-- The least magnitude with too many digits to be written. -/
def bound : Nat := Nat.pow 10 maxDigits

/-- The numeral of an integer. -/
def write (n : Int) : Except Fault String :=
  if n.natAbs < bound then .ok (toString n) else .error .tooLarge

end UtxoBalance.Numeral
