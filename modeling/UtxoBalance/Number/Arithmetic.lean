import UtxoBalance.Number.Binary64

/-!
# Arithmetic of floating-point numbers

Sums and products are exact before they are rounded to the nearest number, ties to
even. A result of zero is negative where both terms of the sum are, or where the signs
of the factors differ.

## Main definitions

- `Binary64.neg`, `Binary64.add`, `Binary64.mul` — the operations
- `Binary64.ofNat?` — the number nearest to a natural
-/

namespace UtxoBalance.Binary64

/-- Whether a number has a minus sign. -/
def isNegative : Binary64 → Bool
  | .finite negative _ _ => negative
  | .infinite negative => negative
  | .nan => false

/-- A zero. -/
def zero (negative : Bool) : Binary64 := .finite negative 0 minExponent

/-- The number with the other sign. -/
def neg : Binary64 → Binary64
  | .finite negative significand exponent => .finite (!negative) significand exponent
  | .infinite negative => .infinite (!negative)
  | .nan => .nan

/-- The number nearest to `num / den`, with a sign of its own for zero. -/
def rounded (negative : Bool) (num den : Nat) : Binary64 :=
  if num = 0 then zero negative else ofQuotient negative num den

/-- The number nearest to a natural, unless it is beyond the range of the format. -/
def ofNat? (n : Nat) : Option Binary64 :=
  match rounded false n 1 with
  | .infinite _ => none
  | x => some x

/-- The product of two numbers. -/
def mul : Binary64 → Binary64 → Binary64
  | .finite s m e, .finite s' m' e' =>
    let (num, den) := scaled (m * m') 1 (-(e + e'))
    rounded (s != s') num den
  | .nan, _ => .nan
  | _, .nan => .nan
  | x, y =>
    if x.isZero || y.isZero then .nan else .infinite (x.isNegative != y.isNegative)

/-- The sum of two numbers. -/
def add : Binary64 → Binary64 → Binary64
  | .finite s m e, .finite s' m' e' =>
    let least := min e e'
    let term := fun (negative : Bool) (m : Nat) (e : Int) =>
      let size := Int.ofNat (m * Nat.pow 2 (e - least).toNat)
      if negative then -size else size
    let sum := term s m e + term s' m' e'
    let (num, den) := scaled sum.natAbs 1 (-least)
    if sum = 0 then zero (s && s') else rounded (decide (sum < 0)) num den
  | .nan, _ => .nan
  | _, .nan => .nan
  | .infinite s, .infinite s' => if s = s' then .infinite s else .nan
  | .infinite s, _ => .infinite s
  | _, y => y

end UtxoBalance.Binary64
