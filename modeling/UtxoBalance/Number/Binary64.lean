/-!
# Binary floating-point numbers

A number of the binary format of 64 bits is a sign and a significand below
`2^53` times a power of two, an infinity, or no number at all. The form is
unique: the significand is at least `2^52` unless the exponent is the least one.

## Main definitions

- `Binary64` — the numbers of the format
- `Binary64.ofDecimal` — the number nearest to a decimal, ties to even
- `Binary64.truncate` — the integer part
- `Binary64.shortest` — the shortest decimal that reads back
- `Binary64.text` — its written form
-/

namespace UtxoBalance

/-- A number of the binary format of 64 bits. -/
inductive Binary64
  /-- The number `significand * 2 ^ exponent`, negated where `negative` holds. -/
  | finite (negative : Bool) (significand : Nat) (exponent : Int)
  /-- An infinity. -/
  | infinite (negative : Bool)
  /-- No number. -/
  | nan
  deriving DecidableEq, Repr, Inhabited

namespace Binary64

/-- The least exponent. -/
def minExponent : Int := -1074

/-- The greatest exponent. -/
def maxExponent : Int := 971

/-- The quotient of two naturals rounded to the nearest, ties to even. -/
def roundDiv (num den : Nat) : Nat :=
  let quotient := num / den
  let twice := 2 * (num % den)
  if twice < den then quotient
  else if den < twice then quotient + 1
  else quotient + quotient % 2

/-- The quotient `num / (den * 2 ^ exponent)` as a fraction of naturals. -/
def scaled (num den : Nat) (exponent : Int) : Nat × Nat :=
  if 0 ≤ exponent then (num, den * Nat.pow 2 exponent.toNat)
  else (num * Nat.pow 2 (-exponent).toNat, den)

/-- The exponent of the number nearest to `num / den`: the least one under which
    the significand stays below `2 ^ 53` before it is rounded. -/
def exponentFor (num den : Nat) : Int :=
  let guess := max ((Nat.log2 num : Int) - Nat.log2 den - 53) minExponent
  let (a, b) := scaled num den guess
  if a / b < Nat.pow 2 53 then guess else guess + 1

/-- The number nearest to `num / den`, ties to even, with the given sign. -/
def ofQuotient (negative : Bool) (num den : Nat) : Binary64 :=
  let exponent := exponentFor num den
  let (a, b) := scaled num den exponent
  let significand := roundDiv a b
  let (significand, exponent) :=
    if significand = Nat.pow 2 53 then (Nat.pow 2 52, exponent + 1) else (significand, exponent)
  if maxExponent < exponent then .infinite negative
  else .finite negative significand exponent

/-- The number nearest to `digits * 10 ^ scale`, ties to even, with the given
    sign. Beyond the range of the format it is zero or an infinity. -/
def ofDecimal (negative : Bool) (digits : Nat) (scale : Int) : Binary64 :=
  let size := (Nat.log2 digits : Int)
  if digits = 0 then .finite negative 0 minExponent
  else if 0 ≤ scale then
    if 1100 < size + 3 * scale then .infinite negative
    else ofQuotient negative (digits * Nat.pow 10 scale.toNat) 1
  else if size + 3 * scale < -1200 then .finite negative 0 minExponent
  else ofQuotient negative digits (Nat.pow 10 (-scale).toNat)

/-- Whether a number is one of the two zeros. -/
def isZero : Binary64 → Bool
  | .finite _ significand _ => significand == 0
  | _ => false

/-- The integer part of a finite number: its fraction is dropped. -/
def truncate (negative : Bool) (significand : Nat) (exponent : Int) : Int :=
  let magnitude : Nat :=
    if 0 ≤ exponent then significand * Nat.pow 2 exponent.toNat
    else significand / Nat.pow 2 (-exponent).toNat
  if negative then -(magnitude : Int) else magnitude

/-- A decimal `digits * 10 ^ scale`. -/
structure Decimal where
  /-- The digits read as one number. -/
  digits : Nat
  /-- The power of ten. -/
  scale : Int
  deriving DecidableEq, Repr

/-- The numbers halfway to the two neighbours of `significand * 2 ^ exponent`, in
    units of `2 ^ (exponent - 2)`. The lower gap is half as wide just above a
    power of two. -/
def halfways (significand : Nat) (exponent : Int) : Nat × Nat :=
  let low :=
    if significand = Nat.pow 2 52 ∧ minExponent < exponent then 4 * significand - 1
    else 4 * significand - 2
  (low, 4 * significand + 2)

/-- A power of ten as a fraction of naturals. -/
def tenth (scale : Int) : Nat × Nat :=
  if 0 ≤ scale then (Nat.pow 10 scale.toNat, 1) else (1, Nat.pow 10 (-scale).toNat)

/-- Whether `digits * 10 ^ scale` rounds to `significand * 2 ^ exponent`. The ends
    of the interval round to it exactly when the significand is even. -/
def readsBack (significand : Nat) (exponent : Int) (digits : Nat) (scale : Int) : Bool :=
  let (low, high) := halfways significand exponent
  let (tenNum, tenDen) := tenth scale
  let (twoNum, twoDen) := scaled 1 1 (2 - exponent)
  -- `digits * tenNum / tenDen` against a bound times `twoNum / twoDen`
  let decimal := digits * tenNum * twoDen
  let lower := low * twoNum * tenDen
  let upper := high * twoNum * tenDen
  if significand % 2 = 0 then lower ≤ decimal && decimal ≤ upper
  else lower < decimal && decimal < upper

/-- The decimal of a given scale that rounds to `significand * 2 ^ exponent`, if
    there is one: of the two neighbours on the grid the nearer, the even one if
    they are equally near. -/
def onGrid? (significand : Nat) (exponent : Int) (scale : Int) : Option Decimal :=
  let (tenNum, tenDen) := tenth scale
  let (num, den) := scaled (significand * tenDen) tenNum (-exponent)
  let below := num / den
  let reads := fun digits => readsBack significand exponent digits scale
  let nearest := roundDiv num den
  if reads nearest then some ⟨nearest, scale⟩
  else if reads below then some ⟨below, scale⟩
  else if reads (below + 1) then some ⟨below + 1, scale⟩
  else none

/-- The first decimal that rounds to `significand * 2 ^ exponent` as the grid is
    made finer, `fuel` times at most. -/
def search (significand : Nat) (exponent : Int) : (fuel : Nat) → Int → Decimal
  | 0, scale => ⟨0, scale⟩
  | fuel + 1, scale => match onGrid? significand exponent scale with
    | some decimal => decimal
    | none => search significand exponent fuel (scale - 1)

/-- A power of ten above a positive `significand * 2 ^ exponent`, at most two places
    too high. -/
def topScale (significand : Nat) (exponent : Int) : Int :=
  let size := (Nat.log2 significand : Int) + exponent + 1
  Int.fdiv (size * 30103) 100000 + 1

/-- A decimal without trailing zeros, `fuel` of them at most. -/
def trim : (fuel : Nat) → Decimal → Decimal
  | 0, d => d
  | fuel + 1, d =>
    if d.digits % 10 = 0 ∧ d.digits ≠ 0 then trim fuel ⟨d.digits / 10, d.scale + 1⟩ else d

/-- The shortest decimal that rounds to a positive `significand * 2 ^ exponent`, and
    of those of its length the nearest. -/
def shortest (significand : Nat) (exponent : Int) : Decimal :=
  let decimal := search significand exponent 24 (topScale significand exponent)
  trim 400 decimal

/-- The sign of a written exponent and its digits, at least two. -/
def exponentText (n : Int) : String :=
  let digits := toString n.natAbs
  (if n < 0 then "-" else "+") ++ (if n.natAbs < 10 then "0" ++ digits else digits)

/-- The written form of a positive decimal: positional from `0.0001` to below
    `10 ^ 16` with at least one place after the point, else with an exponent. -/
def Decimal.text (d : Decimal) : String :=
  let digits := (toString d.digits).toList
  let point : Int := digits.length + d.scale
  if -4 < point ∧ point ≤ 16 then
    if point ≤ 0 then
      "0." ++ String.ofList (List.replicate (-point).toNat '0' ++ digits)
    else
      let whole := point.toNat
      let padded := digits ++ List.replicate (whole - digits.length) '0'
      let fraction := padded.drop whole
      String.ofList (padded.take whole) ++ "." ++
        (if fraction.isEmpty then "0" else String.ofList fraction)
  else
    let tail := digits.drop 1
    String.ofList (digits.take 1) ++
      (if tail.isEmpty then "" else "." ++ String.ofList tail) ++
      "e" ++ exponentText (point - 1)

/-- The written form of a number: the shortest decimal that reads back. -/
def text : Binary64 → String
  | .nan => "nan"
  | .infinite negative => if negative then "-inf" else "inf"
  | .finite negative significand exponent =>
    let magnitude :=
      if significand = 0 then "0.0" else (shortest significand exponent).text
    if negative then "-" ++ magnitude else magnitude

end Binary64

end UtxoBalance
