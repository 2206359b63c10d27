import UtxoBalance.Number.Arithmetic
import UtxoBalance.Number.Numeral

/-!
# Numerals of floating-point numbers

A numeral has digits, a point in front of, between or behind them if it has one, and
perhaps an exponent behind a letter. An infinity and what is no number are written as
words. A sign may stand in front, blanks on both sides, and the digits may be those of
any script.

## Main definitions

- `Binary64.ofNumeral?` — the number that a text writes
-/

namespace UtxoBalance.Binary64

/-- The words for an infinity. -/
def infinityWords : List String := ["inf", "infinity"]

/-- The exponent behind its letter, with a sign or without; nothing at all stands for
    zero. -/
def exponentOf? : List Char → Option Int
  | [] => some 0
  | letter :: rest =>
    let (negative, digits) := Numeral.takeSign rest
    if letter == 'e' && !digits.isEmpty && digits.all Char.isDigit then
      let n := Nat.ofDigitChars 10 digits 0
      some (if negative then -(n : Int) else n)
    else none

/-- The number behind a numeral in lower-case ASCII without sign and blanks. -/
def ofDigits? (negative : Bool) (chars : List Char) : Option Binary64 :=
  let whole := chars.takeWhile Char.isDigit
  let rest := chars.dropWhile Char.isDigit
  let (fraction, tail) := match rest with
    | '.' :: more => (more.takeWhile Char.isDigit, more.dropWhile Char.isDigit)
    | _ => ([], rest)
  if whole.isEmpty && fraction.isEmpty then none
  else
    (exponentOf? tail).map fun exponent =>
      ofDecimal negative (Nat.ofDigitChars 10 (whole ++ fraction) 0) (exponent - fraction.length)

/-- The number that a text writes. -/
def ofNumeral? (text : Text.Raw) : Option Binary64 :=
  let chars := text.patched.toList.map Numeral.toAscii
  let trimmed := (chars.dropWhile Text.isAsciiBlank).reverse.dropWhile Text.isAsciiBlank
  let (negative, unsigned) := Numeral.takeSign (trimmed.reverse.map Char.toLower)
  let word := String.ofList unsigned
  if infinityWords.contains word then some (.infinite negative)
  else if word == "nan" then some .nan
  else ofDigits? negative unsigned

end UtxoBalance.Binary64
