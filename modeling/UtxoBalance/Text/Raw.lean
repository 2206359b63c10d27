import UtxoBalance.Text.Quoted

/-!
# Raw texts

An escape can name one half of a surrogate pair, which is no character by itself. A
text with such a half is kept as its code points; every other text is made of
characters.

## Main definitions

- `Text.Raw` — a text as its escapes spell it
- `Text.Raw.ofPoints` — the text with some code points
- `Text.Raw.patched` — the text with a character in place of each half
- `Text.Raw.quoted` — its quoted form
-/

namespace UtxoBalance.Text

/-- A text as its escapes spell it. -/
inductive Raw
  /-- Characters. -/
  | whole (value : String)
  /-- Code points, at least one of which is no character. -/
  | broken (points : List Nat)
  deriving DecidableEq, Repr, Inhabited

/-- Whether a code point is a character. -/
def isCharacter (point : Nat) : Bool := decide point.isValidChar

/-- What stands for a code point that is no character. -/
def replacement : Char := '\ufffd'

/-- A code point as a character. -/
def patch (point : Nat) : Char :=
  if isCharacter point then Char.ofNat point else replacement

namespace Raw

/-- The text with these code points. -/
def ofPoints (points : List Nat) : Raw :=
  if points.all isCharacter then .whole (String.ofList (points.map patch)) else .broken points

/-- The text with these characters. -/
def ofChars (chars : List Char) : Raw := .whole (String.ofList chars)

/-- The code points of a text. -/
def points : Raw → List Nat
  | .whole value => value.toList.map Char.toNat
  | .broken points => points

/-- The characters of a text, where all of it is made of them. -/
def whole? : Raw → Option String
  | .whole value => some value
  | .broken _ => none

/-- Whether all of a text is made of characters. -/
def IsWhole (text : Raw) : Prop := ∃ value, text = .whole value

/-- The text with the replacement character in place of each half. -/
def patched : Raw → String
  | .whole value => value
  | .broken points => String.ofList (points.map patch)

/-- The text where each half is written in three octets, none of which can be
    read. -/
def octetwise : Raw → String
  | .whole value => value
  | .broken points => String.ofList <| points.flatMap fun point =>
    if isCharacter point then [Char.ofNat point] else List.replicate 3 replacement

/-- Whether a text has no code points. -/
def isEmpty : Raw → Bool
  | .whole value => value.isEmpty
  | .broken points => points.isEmpty

/-- The quoted form of a text, where a half is written as an escape. -/
def quoted : Raw → String
  | .whole value => Text.quoted value
  | .broken points =>
    let quote := quoteFor (points.map patch)
    let body := points.flatMap fun point =>
      if isCharacter point then quotedChar quote (Char.ofNat point) else escapeCode point
    String.ofList (quote :: body ++ [quote])

/-- Characters make a text of themselves. -/
theorem ofPoints_toNat (chars : List Char) :
    ofPoints (chars.map Char.toNat) = ofChars chars := by
  have valid : ∀ c : Char, isCharacter c.toNat = true := fun c =>
    decide_eq_true c.valid
  have same : chars.map (patch ∘ Char.toNat) = chars := by
    induction chars with
    | nil => rfl
    | cons c rest ih => simp [patch, valid, ih]
  have all : (chars.map Char.toNat).all isCharacter = true := by
    simp [List.all_map, Function.comp_def, valid]
  simp [ofPoints, ofChars, all, same]

end Raw

end UtxoBalance.Text
