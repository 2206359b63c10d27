import UtxoBalance.Block.Basic
import UtxoBalance.Failure

/-!
# Reading blocks

A block document follows the JSON form of the chain's block messages: `header`
with `slot`, `hash` and `height`, and `body` with the transactions under `tx`. An
integer may be written as a number or as a numeral, a byte string as base64 of
either alphabet, padded or not, or as hexadecimal behind `0x`. Fields of an input
may be spelled in either of two ways. What is missing, or counts as not given, is
empty.

The transactions are read before the header, and in each transaction the outputs
before the inputs, so the first fault in that order is the one reported.

## Main definitions

- `Block.decodeText` — the byte string that a text writes
- `Block.readBytes`, `Block.readInteger` — the two kinds of field
- `Block.ofDocument` — the block behind a document
- `Block.ofFile` — the block behind the octets of a file
-/

namespace UtxoBalance.Block

/-- Whether a text begins with the mark of hexadecimal text. -/
def hasHexMark : List Char → Bool
  | '0' :: x :: _ => x == 'x' || x == 'X'
  | _ => false

/-- The byte string that a text writes: hexadecimal behind `0x`, else URL-safe
    base64 if one of its two signs appears, else standard base64. -/
def decodeText (text : String) : Except ByteFault Bytes :=
  let chars := text.toList
  if hasHexMark chars then (Hex.decode (String.ofList (chars.drop 2))).mapError .hex
  else if chars.contains '-' || chars.contains '_' then
    (Base64.decodeLenient (Base64.padded text)).mapError .base64
  else (Base64.decodeStrict (Base64.padded text)).mapError .base64

/-- The byte string in a field; the absent value stands for the empty one. -/
def readBytes (field : String) : Document → Except FormatError Bytes
  | .null => .ok []
  | .bytes value => .ok value
  | .text value => (decodeText value).mapError (.badBytes field)
  | .brokenText points =>
    (decodeText (Text.Raw.broken points).patched).mapError (.badBytes field)
  | d => .error (.notBytes field d.kind)

/-- The integer in a field, if it is given. -/
def readInteger (field : String) : Document → Except FormatError (Option Int)
  | .null => .ok none
  | .int value => .ok (some value)
  | .text value => match Numeral.read value with
    | .ok n => .ok (some n)
    | .error _ => .error (.badInteger field (.whole value))
  | .brokenText points => .error (.badInteger field (.broken points))
  | d => .error (.notInteger field d.kind)

/-- The value of a field that may be spelled in two ways: the second spelling
    counts only where the first is missing. -/
def fieldOf (fields : Fields) (first second : String) : Document :=
  (fields.lookup first).getD (Document.field fields second)

/-- The amount in a `coin` field, which is not below zero. A negative amount with
    too many digits for its message fails on that account. -/
def readCoin (d : Document) : Except Failure Int := do
  let coin := (← (readInteger "coin" d).mapError .block).getD 0
  if coin < 0 then
    match Numeral.write coin with
    | .ok _ => throw (.block (.negativeCoin coin))
    | .error fault => throw (.shape (.numeral fault))
  return coin

/-- The output behind a document. -/
def readOutput : Document → Except Failure Output
  | .object fields => do
    let coin ← readCoin (Document.field fields "coin")
    let address ← (readBytes "address" (Document.field fields "address")).mapError .block
    return { address, coin }
  | _ => .error (.block (.notObject .output))

/-- The input behind a document. -/
def readInput : Document → Except Failure Input
  | .object fields => do
    let spent := fieldOf fields "asOutput" "as_output"
    let txHash ←
      (readBytes "txHash" (fieldOf fields "txHash" "tx_hash")).mapError .block
    let outputIndex ←
      (readInteger "outputIndex" (fieldOf fields "outputIndex" "output_index")).mapError .block
    let spent ← if spent.isPresent then some <$> readOutput spent else pure none
    return { txHash, outputIndex := outputIndex.getD 0, spent }
  | _ => .error (.block (.notObject .input))

/-- The elements that a value lists; a value that is not given lists none. -/
def listed (d : Document) : Except Failure (List Document) :=
  if d.isPresent then d.elements.mapError .shape else .ok []

/-- The transaction behind a document. -/
def readTransaction : Document → Except Failure Transaction
  | .object fields => do
    let outputs ← (← listed (Document.field fields "outputs")).mapM readOutput
    let inputs ← (← listed (Document.field fields "inputs")).mapM readInput
    let hash ← (readBytes "hash" (Document.field fields "hash")).mapError .block
    return { outputs, inputs, hash }
  | _ => .error (.block (.notObject .transaction))

/-- The fields of a section of the block; a section that is not given has none. -/
def sectionFields (d : Document) : Except Failure Fields :=
  if d.isPresent then
    match d with
    | .object fields => .ok fields
    | _ => .error (.shape (.noLookup d.kind))
  else .ok []

/-- The block behind a document. -/
def ofDocument : Document → Except Failure Block
  | .object fields => do
    let body ← sectionFields (Document.field fields "body")
    let transactions ← (← listed (Document.field body "tx")).mapM readTransaction
    let header ← sectionFields (Document.field fields "header")
    let slot ← (readInteger "slot" (Document.field header "slot")).mapError .block
    let hash ← (readBytes "hash" (Document.field header "hash")).mapError .block
    let height ← (readInteger "height" (Document.field header "height")).mapError .block
    return { transactions, slot, hash := if hash.isEmpty then none else some hash, height }
  | _ => .error (.block (.notObject .block))

/-- The document behind the octets of the file at `path`. Its text may be nested to any
    depth; that a stack may be too small for it is left out. -/
def documentOfFile (path : String) (octets : Bytes) : Except Failure Document := do
  let chars ← (Utf8.decode octets).mapError .encoding
  match Json.read (some Numeral.maxDigits) (Text.unifyNewlines chars) with
  | .ok d => return d
  | .error (.malformed reason place) => throw (.block (.notJson path reason place))
  | .error (.tooManyDigits count) => throw (.shape (.numeral (.tooManyDigits count)))

/-- The block behind the octets of the file at `path`. -/
def ofFile (path : String) (octets : Bytes) : Except Failure Block := do
  ofDocument (← documentOfFile path octets)

end UtxoBalance.Block
