import UtxoBalance.Atom
import UtxoBalance.Bytes.Base64
import UtxoBalance.Number.Scientific
import UtxoBalance.Text.LowerCase
import UtxoBalance.Yaml.Fault
import UtxoBalance.Yaml.Resolution

/-!
# The values of scalars

The tag of a scalar says how its text is read. A tag that was written out may ask for a
value that the text does not have.

## Main definitions

- `integerOf`, `floatOf`, `truthOf`, `momentOf`, `bytesOf` — the readings
- `Tag.atom` — the value of a scalar with a tag
-/

namespace UtxoBalance.Yaml

/-- The code points of a text without underscores. -/
def withoutMarks (text : Text.Raw) : List Nat :=
  text.points.filter (· != '_'.toNat)

/-- A sign in front of a number, and what follows it. There has to be something. -/
def takeSign (points : List Nat) : Except Fault (Bool × List Nat) :=
  match points with
  | [] => throw .noNumber
  | first :: rest =>
    if first == '-'.toNat then return (true, rest)
    else if first == '+'.toNat then return (false, rest)
    else return (false, points)

/-! ### Integers -/

/-- The integer behind places in base sixty. -/
def ofSixtieths (places : List Int) : Int := places.foldl (fun n place => n * 60 + place) 0

/-- The magnitude of an integer: in base two, eight or sixteen behind a zero, else in
    base ten, or in base sixty with colons between the places. -/
def magnitudeOf (points : List Nat) : Except Fault Int :=
  let reading (result : Except Numeral.Fault Int) : Except Fault Int := result.mapError .numeral
  match points with
  | [] => throw .noNumber
  | first :: rest =>
    if first != '0'.toNat then
      if points.contains ':'.toNat then do
        let places ← (partsBetween ':'.toNat points).mapM fun place =>
          reading (Numeral.readRaw (.ofPoints place))
        return ofSixtieths places
      else reading (Numeral.readRaw (.ofPoints points))
    else if rest.isEmpty then return 0
    else if rest.head? == some 'b'.toNat then
      reading (Numeral.readIn .binary (.ofPoints (rest.drop 1)))
    else if rest.head? == some 'x'.toNat then
      reading (Numeral.readIn .hexadecimal (.ofPoints (rest.drop 1)))
    else reading (Numeral.readIn .octal (.ofPoints points))

/-- The integer behind a text. -/
def integerOf (text : Text.Raw) : Except Fault Int := do
  let (negative, points) ← takeSign (withoutMarks text)
  let magnitude ← magnitudeOf points
  return if negative then -magnitude else magnitude

/-! ### Floating-point numbers -/

/-- The floating-point number that a text writes. -/
def scientificOf (points : List Nat) : Except Fault Binary64 :=
  match Binary64.ofNumeral? (.ofPoints points) with
  | some x => return x
  | none => throw (.notFloat (.ofPoints points))

/-- The sum of places in base sixty, the last of which counts `base`, and `sum`. -/
def sumSixtieths (base : Nat) (sum : Binary64) : List Binary64 → Except Fault Binary64
  | [] => return sum
  | place :: rest =>
    match Binary64.ofNat? base with
    | some factor => sumSixtieths (base * 60) (sum.add (place.mul factor)) rest
    | none => throw .tooLarge

/-- The floating-point number behind a text. -/
def floatOf (text : Text.Raw) : Except Fault Binary64 := do
  let (negative, points) ← takeSign (Text.lowerPoints (withoutMarks text))
  let signed := fun (x : Binary64) => if negative then x.neg else x
  if points == ".inf".toList.map Char.toNat then return .infinite negative
  if points == ".nan".toList.map Char.toNat then return .nan
  if points.contains ':'.toNat then
    let places ← (partsBetween ':'.toNat points).mapM scientificOf
    return signed (← sumSixtieths 1 (Binary64.zero false) places.reverse)
  return signed (← scientificOf points)

/-! ### Other values -/

/-- The words for truth values in lower case. -/
def truths : List (String × Bool) :=
  [("yes", true), ("no", false), ("true", true), ("false", false), ("on", true),
   ("off", false)]

/-- The truth value behind a text, in any case. -/
def truthOf (text : Text.Raw) : Except Fault Bool :=
  let word := Text.Raw.ofPoints (Text.lowerPoints text.points)
  match word.whole?.bind (List.lookup · truths) with
  | some value => return value
  | none => throw (.notTruth word)

/-- The byte string behind a text in base64. -/
def bytesOf (text : Text.Raw) : Except Fault Bytes :=
  (Base64.decodeLoose text.patched).mapError fun _ => .malformed

/-- The millionths of a second that the digits of a fraction write; those after the
    sixth do not count. -/
def microOf (fraction : List Char) : Nat :=
  let digits := fraction.take 6
  Nat.ofDigitChars 10 (digits ++ List.replicate (6 - digits.length) '0') 0

/-- The moment that the numbers of a date name. The zone is looked at first. -/
def Stamp.moment (stamp : Stamp) : Except Moment.Fault Moment := do
  let (year, month, day) := stamp.day
  match stamp.time with
  | none => return .day (← Day.of? year month day)
  | some ((hour, minute, second), fraction, zone) =>
    let ahead ← zone.mapM Moment.distance?
    let day ← Day.of? year month day
    return .time day (← Clock.of? hour minute second (microOf fraction)) ahead

/-- The moment behind a text. -/
def momentOf (text : Text.Raw) : Except Fault Moment :=
  match Stamp.of? false (withoutBreak text.patched.toList) with
  | some stamp => stamp.moment.mapError .moment
  | none => throw .notMoment

/-- Whether a tag is one of those of scalars. -/
def Tag.isScalar : Tag → Bool
  | .null | .bool | .int | .float | .binary | .moment | .text => true
  | _ => false

/-- The value of a scalar with a tag. -/
def Tag.atom (tag : Tag) (text : Text.Raw) : Except Fault Atom :=
  match tag with
  | .null => return .null
  | .bool => .bool <$> truthOf text
  | .int => .int <$> integerOf text
  | .float => .float <$> floatOf text
  | .binary => .bytes <$> bytesOf text
  | .moment => .moment <$> momentOf text
  | .text => return .text text
  | _ => throw .malformed

end UtxoBalance.Yaml
