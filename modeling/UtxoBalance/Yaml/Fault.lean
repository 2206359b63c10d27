import UtxoBalance.Moment
import UtxoBalance.Number.Numeral

/-!
# Why a YAML text is refused

A text that breaks a rule of the language is refused as such. A text that keeps the
rules is refused if a scalar in it does not have the value that its tag asks for.

## Main definitions

- `Yaml.Fault` — the faults
- `Yaml.Fault.message` — their wording
-/

namespace UtxoBalance.Yaml

/-- Why a text is refused. -/
inductive Fault
  /-- It breaks a rule of the language. -/
  | malformed
  /-- An escape names a number above all code points. -/
  | codePoint (number : Nat)
  /-- A text is no integer. -/
  | numeral (fault : Numeral.Fault)
  /-- A text is no floating-point number. -/
  | notFloat (text : Text.Raw)
  /-- A number has too many places. -/
  | tooLarge
  /-- Nothing stands where a number is asked for. -/
  | noNumber
  /-- A text is no truth value. -/
  | notTruth (text : Text.Raw)
  /-- A text is no date. -/
  | notMoment
  /-- A mapping stands where a date is asked for. -/
  | momentOfMapping
  /-- The numbers of a date name no day or time. -/
  | moment (fault : Moment.Fault)
  /-- The value of a scalar is asked for inside that value. -/
  | endless
  deriving DecidableEq, Repr

/-- Whether a number is too large even to be compared with the code points. -/
def isHugePoint (number : Nat) : Bool := decide (Nat.pow 2 31 ≤ number)

/-- The wording of a fault. -/
def Fault.message : Fault → String
  | .malformed => "not a YAML document"
  | .codePoint number =>
    if isHugePoint number then "Python int too large to convert to C int"
    else "chr() arg not in range(0x110000)"
  | .numeral fault => fault.message
  | .notFloat text => "could not convert string to float: " ++ text.quoted
  | .tooLarge => "int too large to convert to float"
  | .noNumber => "string index out of range"
  | .notTruth text => text.quoted
  | .notMoment => "'NoneType' object has no attribute 'groupdict'"
  | .momentOfMapping => "expected string or bytes-like object, got 'list'"
  | .moment fault => fault.message
  | .endless => "maximum recursion depth exceeded"

end UtxoBalance.Yaml
