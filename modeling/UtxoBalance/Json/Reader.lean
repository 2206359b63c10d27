import UtxoBalance.Document.Basic
import UtxoBalance.Number.Numeral
import UtxoBalance.Text.Lines

/-!
# Reading JSON

A text is read by recursive descent. Besides the values of the standard the
reader takes `NaN`, `Infinity` and `-Infinity`; integers have any size, or a
greatest number of digits where the caller sets one. A number with a fraction or
an exponent is a floating-point number. Of two fields with one name the later
value stands in the earlier place. In a name, half of a surrogate pair on its own
becomes the replacement character, so that two names which differ only there count
as one.

There is no limit on nesting. A reader on a bounded stack breaks on a text that is
nested too deeply, with an error that is none of this module's; how deep that is
depends on the stack and on the caller, and is left out here.

Inside the reader a fault is located by the number of characters left, which
needs no counting while the text is read.

## Main definitions

- `Json.Fault` — why a text is no JSON text, and where
- `Json.read` — the document behind a text
-/

namespace UtxoBalance.Json

/-- What is wrong with a text. -/
inductive Reason
  /-- No value begins here. -/
  | expectingValue
  /-- No field name begins here. -/
  | expectingName
  /-- The colon after a field name is missing. -/
  | expectingColon
  /-- The comma between two members is missing. -/
  | expectingComma
  /-- Something follows the value. -/
  | extraData
  /-- The text that begins here does not end. -/
  | unterminated
  /-- A control character inside a text. -/
  | controlCharacter
  /-- An escape that stands for nothing. -/
  | badEscape
  /-- A numbered escape without its four digits. -/
  | badCodeEscape
  /-- The text begins with a byte order mark. -/
  | byteOrderMark
  deriving DecidableEq, Repr

/-- The wording of a reason. -/
def Reason.message : Reason → String
  | .expectingValue => "Expecting value"
  | .expectingName => "Expecting property name enclosed in double quotes"
  | .expectingColon => "Expecting ':' delimiter"
  | .expectingComma => "Expecting ',' delimiter"
  | .extraData => "Extra data"
  | .unterminated => "Unterminated string starting at"
  | .controlCharacter => "Invalid control character at"
  | .badEscape => "Invalid \\escape"
  | .badCodeEscape => "Invalid \\uXXXX escape"
  | .byteOrderMark => "Unexpected UTF-8 BOM (decode using utf-8-sig)"

/-- Why a text is refused. -/
inductive Fault
  /-- The text is no JSON text. -/
  | malformed (reason : Reason) (place : Text.Place)
  /-- An integer has more digits than the caller allows. -/
  | tooManyDigits (count : Nat)
  deriving DecidableEq, Repr

/-- The wording of a fault. -/
def Fault.message : Fault → String
  | .malformed reason place => reason.message ++ ": " ++ place.message
  | .tooManyDigits count => (Numeral.Fault.tooManyDigits count).message

/-- A fault while the text is being read. -/
inductive Stop
  /-- The text is no JSON text, as seen with `left` characters to go. -/
  | malformed (reason : Reason) (left : Nat)
  /-- An integer has more digits than the caller allows. -/
  | tooManyDigits (count : Nat)
  deriving DecidableEq, Repr

/-- The fault that is seen in front of `rest`. -/
def fault {α : Type} (reason : Reason) (rest : List Char) : Except Stop α :=
  .error (.malformed reason rest.length)

/-- The four blanks that may stand between the parts of a text. -/
def isBlank (c : Char) : Bool :=
  c == ' ' || c == '\t' || c == '\n' || c == '\r'

/-- The characters after leading blanks. -/
def skipBlanks (chars : List Char) : List Char :=
  chars.dropWhile isBlank

/-- The characters after a word, if the text begins with it. -/
def afterWord? : (word : List Char) → List Char → Option (List Char)
  | [], rest => some rest
  | w :: word, c :: rest => if w = c then afterWord? word rest else none
  | _ :: _, [] => none

/-- The number that four hexadecimal digits write. -/
def fourDigits? (a b c d : Char) : Option Nat := do
  return (((← Hex.value? a) * 16 + (← Hex.value? b)) * 16 + (← Hex.value? c)) * 16 +
    (← Hex.value? d)

/-- The character that a one-letter escape stands for. -/
def escaped? : Char → Option Char
  | '"' => some '"'
  | '\\' => some '\\'
  | '/' => some '/'
  | 'b' => some '\x08'
  | 'f' => some '\x0c'
  | 'n' => some '\n'
  | 'r' => some '\r'
  | 't' => some '\t'
  | _ => none

/-- Whether a code unit is the first half of a surrogate pair. -/
def isHighSurrogate (code : Nat) : Bool := 0xD800 ≤ code && code < 0xDC00

/-- Whether a code unit is the second half of a surrogate pair. -/
def isLowSurrogate (code : Nat) : Bool := 0xDC00 ≤ code && code < 0xE000

/-- The code point of a surrogate pair. -/
def joinSurrogates (high low : Nat) : Nat :=
  0x10000 + (high - 0xD800) * 0x400 + (low - 0xDC00)

/-- What comes of a numbered escape, given the characters after its letter: its code
    point and the characters after the escape. The first half of a surrogate pair
    takes the second half with it. At least one more character has to follow the
    digits. -/
def codeEscape (digits : List Char) : Except Stop (Nat × List Char) :=
  match digits with
  | a :: b :: c :: d :: next :: rest =>
    match fourDigits? a b c d with
    | none => .error (.malformed .badCodeEscape (rest.length + 6))
    | some high =>
      match isHighSurrogate high, next, rest with
      | true, '\\', 'u' :: a' :: b' :: c' :: d' :: next' :: rest' =>
        match fourDigits? a' b' c' d' with
        | none => .error (.malformed .badCodeEscape (rest'.length + 6))
        | some low =>
          if isLowSurrogate low then .ok (joinSurrogates high low, next' :: rest')
          else .ok (high, next :: rest)
      | _, _, _ => .ok (high, next :: rest)
  | short => .error (.malformed .badCodeEscape (short.length + 1))

/-- The code points of a text up to its closing quote, `fuel` of them at most. The
    text began with `whole`, its opening quote included. -/
def readPoints (whole : List Char) : (fuel : Nat) → List Char → Except Stop (List Nat × List Char)
  | 0, _ => fault .unterminated whole
  | _, [] => fault .unterminated whole
  | fuel + 1, c :: rest =>
    if c = '"' then .ok ([], rest)
    else if c.toNat < 0x20 then fault .controlCharacter (c :: rest)
    else if c = '\\' then
      match rest with
      | [] => fault .unterminated whole
      | 'u' :: digits => do
        let (point, rest) ← codeEscape digits
        let (points, rest) ← readPoints whole fuel rest
        return (point :: points, rest)
      | e :: after => match escaped? e with
        | none => fault .badEscape (c :: rest)
        | some char => do
          let (points, rest) ← readPoints whole fuel after
          return (char.toNat :: points, rest)
    else do
      let (points, rest) ← readPoints whole fuel rest
      return (c.toNat :: points, rest)

/-- A text, given the characters after its opening quote. -/
def readText (body : List Char) : Except Stop (Text.Raw × List Char) := do
  let (points, rest) ← readPoints ('"' :: body) (body.length + 1) body
  return (.ofPoints points, rest)

/-- The digits of a fraction, if a point and a digit begin one. -/
def takeFraction : List Char → List Char × List Char
  | '.' :: c :: rest =>
    if c.isDigit then ((c :: rest).takeWhile Char.isDigit, (c :: rest).dropWhile Char.isDigit)
    else ([], '.' :: c :: rest)
  | chars => ([], chars)

/-- The exponent, if its letter, an optional sign and a digit begin one. -/
def takeExponent (chars : List Char) : Option Int × List Char :=
  match chars with
  | e :: rest =>
    if e = 'e' || e = 'E' then
      let (negative, unsigned) := Numeral.takeSign rest
      let digits := unsigned.takeWhile Char.isDigit
      if digits.isEmpty then (none, chars)
      else
        let magnitude : Int := Nat.ofDigitChars 10 digits 0
        (some (if negative then -magnitude else magnitude),
          unsigned.dropWhile Char.isDigit)
    else (none, chars)
  | [] => (none, [])

/-- The digits in front of the point: a single zero, or digits of which the first
    is no zero. -/
def takeWhole : List Char → List Char × List Char
  | '0' :: rest => (['0'], rest)
  | chars => (chars.takeWhile Char.isDigit, chars.dropWhile Char.isDigit)

/-- A number, of whose integers those with more than `maxDigits` digits are
    refused. -/
def readNumber (maxDigits : Option Nat) (chars : List Char) : Except Stop (Document × List Char) :=
  let (negative, unsigned) := match chars with
    | '-' :: rest => (true, rest)
    | _ => (false, chars)
  let (whole, rest) := takeWhole unsigned
  let (fraction, rest) := takeFraction rest
  let (exponent?, rest) := takeExponent rest
  if whole.isEmpty then fault .expectingValue chars
  else if fraction.isEmpty && exponent?.isNone then
    if maxDigits.any (· < whole.length) then .error (.tooManyDigits whole.length)
    else
      let magnitude : Int := Nat.ofDigitChars 10 whole 0
      .ok (.int (if negative then -magnitude else magnitude), rest)
  else
    let digits := Nat.ofDigitChars 10 (whole ++ fraction) 0
    let scale := exponent?.getD 0 - fraction.length
    .ok (.float (Binary64.ofDecimal negative digits scale), rest)

/-- The values that are written as one word. -/
def words : List (List Char × Document) :=
  [("null".toList, .null), ("true".toList, .bool true), ("false".toList, .bool false),
   ("NaN".toList, .float .nan), ("Infinity".toList, .float (.infinite false)),
   ("-Infinity".toList, .float (.infinite true))]

mutual

/-- A value, nested to any depth: there is no bound on the stack. Every bracket and every
    member costs one of `fuel`, of which `readAll` gives enough for the whole text. -/
def readValue (maxDigits : Option Nat) : (fuel : Nat) → List Char → Except Stop (Document × List Char)
  | 0, chars => fault .expectingValue chars
  | fuel + 1, chars => match chars with
    | [] => fault .expectingValue []
    | '"' :: rest => do
      let (value, rest) ← readText rest
      return (.ofRaw value, rest)
    | '\x7b' :: rest => match skipBlanks rest with
      | '\x7d' :: rest => .ok (.object [], rest)
      | rest => do
        let (pairs, rest) ← readFields maxDigits fuel rest
        return (.object (Fields.ofPairs pairs), rest)
    | '[' :: rest => match skipBlanks rest with
      | ']' :: rest => .ok (.list [], rest)
      | rest => do
        let (items, rest) ← readItems maxDigits fuel rest
        return (.list items, rest)
    | _ =>
      match words.findSome? fun (word, value) =>
        (afterWord? word chars).map fun rest => (value, rest) with
      | some result => .ok result
      | none => readNumber maxDigits chars

/-- The items of a list up to its closing bracket, from the first one on. -/
def readItems (maxDigits : Option Nat) : (fuel : Nat) → List Char → Except Stop (List Document × List Char)
  | 0, chars => fault .expectingValue chars
  | fuel + 1, chars => do
    let (item, rest) ← readValue maxDigits fuel chars
    match skipBlanks rest with
    | ']' :: rest => return ([item], rest)
    | ',' :: rest => do
      let (items, rest) ← readItems maxDigits fuel (skipBlanks rest)
      return (item :: items, rest)
    | rest => fault .expectingComma rest

/-- The fields of an object up to its closing brace, from the first one on. Names are made
    of characters, and halves of surrogate pairs in them are patched. -/
def readFields (maxDigits : Option Nat) :
    (fuel : Nat) → List Char → Except Stop (List (String × Document) × List Char)
  | 0, chars => fault .expectingName chars
  | fuel + 1, chars => match chars with
    | '"' :: rest => do
      let (name, rest) ← readText rest
      match skipBlanks rest with
      | ':' :: rest => do
        let (value, rest) ← readValue maxDigits fuel (skipBlanks rest)
        match skipBlanks rest with
        | '\x7d' :: rest => return ([(name.patched, value)], rest)
        | ',' :: rest => do
          let (fields, rest) ← readFields maxDigits fuel (skipBlanks rest)
          return ((name.patched, value) :: fields, rest)
        | rest => fault .expectingComma rest
      | rest => fault .expectingColon rest
    | _ => fault .expectingName chars

end

/-- A value with nothing but blanks around it. -/
def readAll (maxDigits : Option Nat) (chars : List Char) : Except Stop Document := do
  let (value, rest) ← readValue maxDigits (2 * chars.length + 2) (skipBlanks chars)
  match skipBlanks rest with
  | [] => return value
  | rest => fault .extraData rest

/-- The document behind a text. Integers with more than `maxDigits` digits are
    refused, if a greatest number is given. -/
def read (maxDigits : Option Nat) (text : List Char) : Except Fault Document :=
  if text.head? = some '\ufeff' then .error (.malformed .byteOrderMark (Text.placeOf text 0))
  else match readAll maxDigits text with
    | .ok value => .ok value
    | .error (.tooManyDigits count) => .error (.tooManyDigits count)
    | .error (.malformed reason left) =>
      .error (.malformed reason (Text.placeOf text (text.length - left)))

end UtxoBalance.Json
