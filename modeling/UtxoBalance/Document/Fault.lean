import UtxoBalance.Document.Shown

/-!
# Values of the wrong shape

What goes wrong when an operation takes a document apart and finds another shape
than it needs. Each fault carries what its message shows.

## Main definitions

- `Fault` — the faults and their wording
- `Document.elements` — the elements a value lists
- `Document.toPair` — a value taken apart into two
- `Document.toAmount` — a value as an integer
-/

namespace UtxoBalance

/-- A value of another shape than an operation needs. -/
inductive Fault
  /-- A numeral was refused. -/
  | numeral (fault : Numeral.Fault)
  /-- An infinity has no integer part. -/
  | infinite
  /-- What is no number has no integer part. -/
  | notANumber
  /-- A value of this kind stands for no integer. -/
  | notAmount (kind : String)
  /-- A value of this kind lists no elements. -/
  | notIterable (kind : String)
  /-- A value of this kind cannot be taken apart. -/
  | notUnpackable (kind : String)
  /-- A value with fewer than two elements where a pair is needed. -/
  | tooFewValues (got : Nat)
  /-- A value with more than two elements where a pair is needed. -/
  | tooManyValues
  /-- A value of this kind cannot be a key. -/
  | unhashable (kind : String)
  /-- The member at this place cannot be taken apart. -/
  | memberNotSequence (index : Nat)
  /-- The member at this place has another length than two. -/
  | memberLength (index length : Nat)
  /-- A value of this kind has no fields to look up. -/
  | noLookup (kind : String)
  deriving DecidableEq, Repr

/-- The wording of a fault. -/
def Fault.message : Fault → String
  | .numeral fault => fault.message
  | .infinite => "cannot convert float infinity to integer"
  | .notANumber => "cannot convert float NaN to integer"
  | .notAmount kind =>
    "int() argument must be a string, a bytes-like object or a real number, not '" ++
      kind ++ "'"
  | .notIterable kind => "'" ++ kind ++ "' object is not iterable"
  | .notUnpackable kind => "cannot unpack non-iterable " ++ kind ++ " object"
  | .tooFewValues got =>
    "not enough values to unpack (expected 2, got " ++ toString got ++ ")"
  | .tooManyValues => "too many values to unpack (expected 2)"
  | .unhashable kind => "unhashable type: '" ++ kind ++ "'"
  | .memberNotSequence index =>
    "cannot convert dictionary update sequence element #" ++ toString index ++
      " to a sequence"
  | .memberLength index length =>
    "dictionary update sequence element #" ++ toString index ++ " has length " ++
      toString length ++ "; 2 is required"
  | .noLookup kind => "'" ++ kind ++ "' object has no attribute 'get'"

namespace Document

/-- The elements a value lists: the items of a list, the characters of a text,
    the names of an object, the octets of a byte string. -/
def elements? : Document → Option (List Document)
  | .list items => some items
  | .text value => some (value.toList.map fun c => .text (String.singleton c))
  | .brokenText points => some (points.map fun point => ofRaw (.ofPoints [point]))
  | .object fields => some (fields.map fun (name, _) => .text name)
  | .bytes value => some (value.map fun b => .int b.toNat)
  | _ => none

/-- The elements a value lists, or the fault of its kind. -/
def elements (d : Document) : Except Fault (List Document) :=
  match d.elements? with
  | some items => .ok items
  | none => .error (.notIterable d.kind)

/-- A value taken apart into its two elements. -/
def toPair (d : Document) : Except Fault (Document × Document) :=
  match d.elements? with
  | some [first, second] => .ok (first, second)
  | some (_ :: _ :: _ :: _) => .error .tooManyValues
  | some short => .error (.tooFewValues short.length)
  | none => .error (.notUnpackable d.kind)

/-- A value as the name of a field. A value that is no text is named by its
    one-line form; lists and objects name nothing. -/
def toName : Document → Except Fault String
  | .text value => .ok value
  | .list _ => .error (.unhashable "list")
  | .object _ => .error (.unhashable "dict")
  | d => .ok (d.shown.toOption.getD d.kind)

/-- A value as an integer: numerals are read, truth values count as zero and one,
    and the fraction of a floating-point number is dropped. -/
def toAmount : Document → Except Fault Int
  | .bool value => .ok (if value then 1 else 0)
  | .int value => .ok value
  | .float .nan => .error .notANumber
  | .float (.infinite _) => .error .infinite
  | .float (.finite negative significand exponent) =>
    .ok (Binary64.truncate negative significand exponent)
  | .text value => (Numeral.read value).mapError .numeral
  | .brokenText points => (Numeral.readRaw (.broken points)).mapError .numeral
  | d => .error (.notAmount d.kind)

end Document

end UtxoBalance
