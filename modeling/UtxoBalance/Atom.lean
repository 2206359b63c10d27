import UtxoBalance.Moment
import UtxoBalance.Number.Binary64
import UtxoBalance.Number.Numeral

/-!
# Atoms

An atom is a value that has no parts. It can be the key of a mapping, where numbers are
the same key if they are equal, of whatever kind, and truth values are the numbers zero
and one.

## Main definitions

- `Atom` — the values
- `Atom.kind` — the word messages use for a value's kind
- `Atom.shown` — the one-line form of a value
- `Atom.same` — whether two values are the same key
-/

namespace UtxoBalance

/-- A value that has no parts. -/
inductive Atom
  /-- The absent value. -/
  | null
  /-- A truth value. -/
  | bool (value : Bool)
  /-- An integer of any size. -/
  | int (value : Int)
  /-- A floating-point number. -/
  | float (value : Binary64)
  /-- A text. -/
  | text (value : Text.Raw)
  /-- A byte string. -/
  | bytes (value : Bytes)
  /-- A date or a time. -/
  | moment (value : Moment)
  deriving DecidableEq, Repr, Inhabited

namespace Atom

/-- The word messages use for a value's kind. -/
def kind : Atom → String
  | .null => "NoneType"
  | .bool _ => "bool"
  | .int _ => "int"
  | .float _ => "float"
  | .text _ => "str"
  | .bytes _ => "bytes"
  | .moment value => value.kind

/-- Whether a value counts as given: the absent value, falsehood, the zeros and
    everything empty do not. -/
def isPresent : Atom → Bool
  | .null => false
  | .bool value => value
  | .int value => value != 0
  | .float value => !value.isZero
  | .text value => !value.isEmpty
  | .bytes value => !value.isEmpty
  | .moment _ => true

/-- The one-line form of a value. An integer with too many digits is not shown. -/
def shown : Atom → String
  | .null => "None"
  | .bool value => if value then "True" else "False"
  | .int value => (Numeral.write value).toOption.getD "<unprintable int object>"
  | .float value => value.text
  | .text value => value.quoted
  | .bytes value => Text.quotedBytes value
  | .moment value => value.shown

/-- The integer that a floating-point number is equal to. -/
def integer? : Binary64 → Option Int
  | .finite negative significand exponent =>
    let value := Binary64.truncate negative significand exponent
    if 0 ≤ exponent || significand % Nat.pow 2 (-exponent).toNat == 0 then some value else none
  | _ => none

/-- A value in the form in which it is compared as a key. -/
def canonical : Atom → Atom
  | .bool value => .int (if value then 1 else 0)
  | .float value => (integer? value).elim (.float value) .int
  | a => a

/-- Whether two values are the same key. -/
def same (a b : Atom) : Bool :=
  match a, b with
  | .moment x, .moment y => x.same y
  | _, _ => decide (a.canonical = b.canonical)

end Atom

end UtxoBalance
