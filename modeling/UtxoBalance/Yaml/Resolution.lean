import UtxoBalance.Text.Raw
import UtxoBalance.Yaml.Tag

/-!
# The tags of plain scalars

A plain scalar is a truth value, an integer, a floating-point number, nothing, or a
date if it is written like one, and otherwise a text. Integers may be written in
base two, eight, ten and sixteen, and integers and floating-point numbers in base
sixty with colons between the places; underscores between digits count for nothing.
A floating-point number needs a point, and its exponent a sign.

## Main definitions

- `isInteger`, `isFloat`, `Stamp.of?` — how numbers and dates are written
- `Tag.ofPlain` — the tag of a plain scalar
-/

namespace UtxoBalance.Yaml

/-- The texts that stand for truth values. -/
def truthWords : List String :=
  ["yes", "Yes", "YES", "no", "No", "NO", "true", "True", "TRUE", "false", "False", "FALSE",
   "on", "On", "ON", "off", "Off", "OFF"]

/-- The texts that stand for nothing. -/
def nothingWords : List String := ["~", "null", "Null", "NULL"]

/-- The text of the key under which entries are merged in. -/
def mergeWord : String := "<<"

/-- The text of the key of the value that stands for a mapping. -/
def valueWord : String := "="

/-- The signs that stand for the sign itself and have no value. -/
def signWords : List String := ["!", "&", "*"]

/-! ### Numbers -/

/-- Whether a character is an underscore or a digit below a base of at most ten. -/
def isDigitBelow (base : Nat) (c : Char) : Bool :=
  c == '_' || (c.isDigit && c.toNat < 48 + base)

/-- Whether a character is an underscore or a hexadecimal digit. -/
def isHexDigit (c : Char) : Bool :=
  c == '_' || (Hex.value? c).isSome

/-- The parts of a list between the elements that are `mark`. -/
def partsBetween {α : Type} [BEq α] (mark : α) : List α → List (List α)
  | [] => [[]]
  | x :: rest =>
    match partsBetween mark rest with
    | part :: parts => if x == mark then [] :: part :: parts else (x :: part) :: parts
    | [] => [[x]]

/-- The characters after a sign, if there is one. -/
def pastSign (chars : List Char) : List Char :=
  match chars with
  | '+' :: rest | '-' :: rest => rest
  | _ => chars

/-- Whether a part of a number in base sixty has one digit, or two of which the first
    is below six. -/
def isSixtieth : List Char → Bool
  | [a] => a.isDigit
  | [a, b] => '0' ≤ a && a ≤ '5' && b.isDigit
  | _ => false

/-- Whether a text is written like an integer. -/
def isInteger (chars : List Char) : Bool :=
  match pastSign chars with
  | '0' :: 'b' :: digits => !digits.isEmpty && digits.all (isDigitBelow 2)
  | '0' :: 'x' :: digits => !digits.isEmpty && digits.all isHexDigit
  | '0' :: digits => digits.all (isDigitBelow 8)
  | first :: rest =>
    first.isDigit &&
      match partsBetween ':' (first :: rest) with
      | whole :: places => whole.all (isDigitBelow 10) && places.all isSixtieth
      | [] => false
  | [] => false

/-- Whether a text is empty or an exponent: a letter, a sign and digits. -/
def isExponent : List Char → Bool
  | [] => true
  | letter :: sign :: digits =>
    (letter == 'e' || letter == 'E') && (sign == '+' || sign == '-') && !digits.isEmpty &&
      digits.all Char.isDigit
  | _ => false

/-- Whether a text is written like a floating-point number in decimal digits. Digits
    stand in front of the point, or behind it and the number then has no sign. -/
def isDecimalFloat (chars : List Char) : Bool :=
  let unsigned := pastSign chars
  let whole := unsigned.takeWhile (isDigitBelow 10)
  match unsigned.dropWhile (isDigitBelow 10) with
  | '.' :: rest =>
    let begins := match whole with
      | first :: _ => first.isDigit
      | [] => unsigned.length == chars.length && rest.head?.any Char.isDigit
    begins && isExponent (rest.dropWhile (isDigitBelow 10))
  | _ => false

/-- Whether a text is written like a floating-point number in base sixty. -/
def isSixtiethFloat (chars : List Char) : Bool :=
  let unsigned := pastSign chars
  match unsigned.dropWhile (· != '.'), partsBetween ':' (unsigned.takeWhile (· != '.')) with
  | '.' :: fraction, whole :: first :: rest =>
    fraction.all (isDigitBelow 10) && whole.head?.any Char.isDigit &&
      whole.all (isDigitBelow 10) && (first :: rest).all isSixtieth
  | _, _ => false

/-- Whether a text is written like a floating-point number. -/
def isFloat (chars : List Char) : Bool :=
  [".inf", ".Inf", ".INF"].contains (String.ofList (pastSign chars)) ||
    [".nan", ".NaN", ".NAN"].contains (String.ofList chars) ||
    isDecimalFloat chars || isSixtiethFloat chars

/-! ### Dates -/

/-- A date, or a date with a time, in the numbers in which it is written. -/
structure Stamp where
  /-- Year, month and day. -/
  day : Nat × Nat × Nat
  /-- Hour, minute and second, the digits of the fraction, and the zone. -/
  time : Option ((Nat × Nat × Nat) × List Char × Option Int)
  deriving DecidableEq, Repr

namespace Stamp

/-- The number that at least `least` and at most `most` digits write, and the characters
    after them. -/
def number? (least most : Nat) (chars : List Char) : Option (Nat × List Char) :=
  let digits := (chars.take most).takeWhile Char.isDigit
  if digits.length < least then none
  else some (Nat.ofDigitChars 10 digits 0, chars.drop digits.length)

/-- The characters after a sign. -/
def past? (sign : Char) : List Char → Option (List Char)
  | c :: rest => if c == sign then some rest else none
  | [] => none

/-- Year, month and day with dashes between them, and the characters after them. -/
def day? (chars : List Char) : Option ((Nat × Nat × Nat) × List Char) := do
  let (year, rest) ← number? 4 4 chars
  let (month, rest) ← number? 1 2 (← past? '-' rest)
  let (day, rest) ← number? 1 2 (← past? '-' rest)
  return ((year, month, day), rest)

/-- Hour, minute and second with colons between them, and the characters after them. -/
def clock? (chars : List Char) : Option ((Nat × Nat × Nat) × List Char) := do
  let (hour, rest) ← number? 1 2 chars
  let (minute, rest) ← number? 2 2 (← past? ':' rest)
  let (second, rest) ← number? 2 2 (← past? ':' rest)
  return ((hour, minute, second), rest)

/-- The minutes by which a zone is ahead of universal time. -/
def zone? : List Char → Option Int
  | ['Z'] => some 0
  | sign :: rest => do
    if sign != '+' && sign != '-' then none
    let (hours, rest) ← number? 1 2 rest
    let (minutes, rest) ← match rest with
      | ':' :: rest => number? 2 2 rest
      | _ => some (0, rest)
    if !rest.isEmpty then none
    let span : Int := hours * 60 + minutes
    return if sign == '-' then -span else span
  | [] => none

/-- Whether a character is a space or a tab. -/
def isBlank (c : Char) : Bool := c == ' ' || c == '\t'

/-- A date, or a date with a time behind blanks or a letter. A date alone has two digits
    for the month and for the day where `padded` holds. -/
def of? (padded : Bool) (chars : List Char) : Option Stamp := do
  let (day, rest) ← day? chars
  match rest with
  | [] => if padded && chars.length != 10 then none else return { day, time := none }
  | c :: tail =>
    let time ← if c == 'T' || c == 't' then some tail
      else if isBlank c then some (tail.dropWhile isBlank) else none
    let (clock, rest) ← clock? time
    let (fraction, rest) := match rest with
      | '.' :: rest => (rest.takeWhile Char.isDigit, rest.dropWhile Char.isDigit)
      | _ => ([], rest)
    if rest.isEmpty then return { day, time := some (clock, fraction, none) }
    let zone ← zone? (rest.dropWhile isBlank)
    return { day, time := some (clock, fraction, some zone) }

end Stamp

/-! ### Plain scalars -/

/-- A text without one break at its end. -/
def withoutBreak (chars : List Char) : List Char :=
  if chars.getLast? == some '\n' then chars.dropLast else chars

/-- The tag of a plain scalar. A break at the end of a text counts for nothing, unless
    there is nothing else. -/
def Tag.ofPlain (text : Text.Raw) : Tag :=
  match text with
  | .broken _ => .text
  | .whole word =>
    let chars := withoutBreak word.toList
    let short := String.ofList chars
    if word.isEmpty then .null
    else if truthWords.contains short then .bool
    else if isFloat chars then .float
    else if isInteger chars then .int
    else if short == mergeWord then .merge
    else if nothingWords.contains short then .null
    else if (Stamp.of? true chars).isSome then .moment
    else if short == valueWord then .value
    else if signWords.contains short then .unknown
    else .text

end UtxoBalance.Yaml
