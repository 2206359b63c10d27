import UtxoBalance.Bytes.Base64
import UtxoBalance.Json.Reader

/-!
# Errors of block documents

Why a document, or the text of a file, describes no block.

## Main definitions

- `Block.ByteFault` — why a text writes no byte string
- `Block.FormatError` — why a document is no block
-/

namespace UtxoBalance.Block

/-- Why a text writes no byte string. -/
inductive ByteFault
  /-- A hexadecimal text with this first misplaced character. -/
  | hex (position : Nat)
  /-- A base64 text at fault. -/
  | base64 (fault : Base64.Fault)
  deriving DecidableEq, Repr

/-- The wording of a fault. -/
def ByteFault.message : ByteFault → String
  | .hex position =>
    "non-hexadecimal number found in fromhex() arg at position " ++ toString position
  | .base64 fault => fault.message

/-- The parts of a block document that have to be objects. -/
inductive Part
  | block | transaction | output | input
  deriving DecidableEq, Repr

/-- The name of a part. -/
def Part.name : Part → String
  | .block => "block"
  | .transaction => "transaction"
  | .output => "output"
  | .input => "input"

/-- Why a document is no block. -/
inductive FormatError
  /-- A part is no object. -/
  | notObject (part : Part)
  /-- An output with less than no coin. -/
  | negativeCoin (coin : Int)
  /-- A value of this kind stands where a byte string belongs. -/
  | notBytes (field kind : String)
  /-- A text that writes no byte string. -/
  | badBytes (field : String) (fault : ByteFault)
  /-- A value of this kind stands where an integer belongs. -/
  | notInteger (field kind : String)
  /-- A text that writes no integer. -/
  | badInteger (field : String) (text : Text.Raw)
  /-- The file holds no JSON text. -/
  | notJson (path : String) (reason : Json.Reason) (place : Text.Place)
  deriving DecidableEq, Repr

/-- The wording of an error. -/
def FormatError.message : FormatError → String
  | .notObject part => part.name ++ " must be an object"
  | .negativeCoin coin => "coin must be non-negative, got " ++ toString coin
  | .notBytes field kind => field ++ ": expected bytes as string, got " ++ kind
  | .badBytes field fault => field ++ ": invalid byte encoding: " ++ fault.message
  | .notInteger field kind => field ++ ": expected integer, got " ++ kind
  | .badInteger field text => field ++ ": invalid integer " ++ text.quoted
  | .notJson path reason place =>
    path ++ ": not valid JSON: " ++ (Json.Fault.malformed reason place).message

end UtxoBalance.Block
