/-!
# Blank characters

Two classes of white space. The narrow one holds the six blanks of ASCII that
may stand around a number or between the digit pairs of a byte string. The wide
one holds the blanks outside ASCII, which are read as an ordinary space.

## Main definitions

- `Text.isAsciiBlank` — tab, line feed, vertical tab, form feed, return, space
- `Text.isWideBlank` — the blanks above `U+007F`
-/

namespace UtxoBalance.Text

/-- The six blanks of ASCII. The four separators `U+001C` to `U+001F` are not
    among them. -/
def isAsciiBlank (c : Char) : Bool :=
  c == ' ' || (9 ≤ c.toNat && c.toNat ≤ 13)

/-- The blanks outside ASCII: those of Latin-1, the Ogham space, the general
    punctuation spaces, the two separators and the ideographic space. -/
def isWideBlank (c : Char) : Bool :=
  let n := c.toNat
  n == 0x85 || n == 0xA0 || n == 0x1680 || (0x2000 ≤ n && n ≤ 0x200A) ||
    n == 0x2028 || n == 0x2029 || n == 0x202F || n == 0x205F || n == 0x3000

end UtxoBalance.Text
