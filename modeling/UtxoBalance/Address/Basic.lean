import UtxoBalance.Bytes.Hex

/-!
# Addresses

The first octet of an address is its header: the high four bits name the layout,
the low four the network. A credential is a hash of 28 octets. A base address
holds a payment credential and a staking credential, a pointer address a payment
credential and a chain pointer, an enterprise address a payment credential
alone, and a reward address a staking credential alone. A Byron address is a
structure of its own.

## Main definitions

- `Address.Kind` — the five layouts
- `Address.Mode` — which balance an address is looked at for
- `Address.classify` — the layout that a header names
- `Address.network` — the network that a header names
- `Address.DecodeError` — an address that matches no layout
- `Address.reward` — the reward address of a staking credential
-/

namespace UtxoBalance.Address

/-- The layout of an address. -/
inductive Kind
  | base | pointer | enterprise | byron | reward
  deriving DecidableEq, Repr

/-- The name of a layout. -/
def Kind.name : Kind → String
  | .base => "base"
  | .pointer => "pointer"
  | .enterprise => "enterprise"
  | .byron => "byron"
  | .reward => "reward"

/-- Which balance an address is looked at for. -/
inductive Mode
  /-- The balance of the address itself. -/
  | payment
  /-- The balance of the staking credential behind it. -/
  | stake
  deriving DecidableEq, Repr

/-- The name of a mode. -/
def Mode.name : Mode → String
  | .payment => "payment"
  | .stake => "stake"

/-- The mode with a given name. -/
def Mode.ofName? (name : String) : Option Mode :=
  if name = "payment" then some .payment
  else if name = "stake" then some .stake
  else none

/-- The number of octets of a credential. -/
def credentialLength : Nat := 28

/-- The number of octets of a base address. -/
def baseLength : Nat := 1 + 2 * credentialLength

/-- The number of octets of a reward address, and of an enterprise address. -/
def rewardLength : Nat := 1 + credentialLength

/-- Why a byte string is no address. -/
inductive Reason
  /-- It is empty. -/
  | empty
  /-- No layout has this number in the header. -/
  | unknownHeader (nibble : Nat)
  /-- It does not have the length of a base address. -/
  | baseLength (got : Nat)
  /-- It does not have the length of a reward address. -/
  | rewardLength (got : Nat)
  /-- It does not have the length of an enterprise address. -/
  | enterpriseLength (got : Nat)
  /-- It ends before its chain pointer. -/
  | missingPointer
  deriving DecidableEq, Repr

/-- The four binary digits of a number below sixteen. -/
def nibbleText (n : Nat) : String :=
  String.ofList ([3, 2, 1, 0].map fun i => if n.testBit i then '1' else '0')

/-- The wording of a reason. -/
def Reason.message : Reason → String
  | .empty => "empty address"
  | .unknownHeader nibble => "unknown header nibble " ++ nibbleText nibble
  | .baseLength got => "base address must be 57 bytes, got " ++ toString got
  | .rewardLength got => "reward address must be 29 bytes, got " ++ toString got
  | .enterpriseLength got => "enterprise address must be 29 bytes, got " ++ toString got
  | .missingPointer => "pointer address is missing its chain pointer"

/-- A byte string that is no address. -/
structure DecodeError where
  /-- The octets. -/
  raw : Bytes
  /-- Why they are no address. -/
  reason : Reason
  deriving DecidableEq, Repr

/-- The wording of the error, with all octets in hexadecimal. -/
def DecodeError.message (e : DecodeError) : String :=
  "address '" ++ Hex.encode e.raw ++ "' could not be decoded: " ++ e.reason.message

/-- The layout that the high four bits of a header name. -/
def kindOf? (nibble : Nat) : Option Kind :=
  if nibble < 4 then some .base
  else if nibble < 6 then some .pointer
  else if nibble < 8 then some .enterprise
  else if nibble = 8 then some .byron
  else if nibble = 14 ∨ nibble = 15 then some .reward
  else none

/-- The high four bits of a header. -/
def layoutBits (header : UInt8) : Nat := header.toNat / 16

/-- The low four bits of a header. -/
def networkBits (header : UInt8) : Nat := header.toNat % 16

/-- The layout of an address, as its header names it. -/
def classify (raw : Bytes) : Except DecodeError Kind :=
  match raw with
  | [] => .error ⟨raw, .empty⟩
  | header :: _ => match kindOf? (layoutBits header) with
    | some kind => .ok kind
    | none => .error ⟨raw, .unknownHeader (layoutBits header)⟩

/-- The network of an address, as its header names it. -/
def network (raw : Bytes) : Nat :=
  networkBits (raw.headD 0)

/-- The header of a reward address: whether its credential is that of a script,
    and the network modulo sixteen. -/
def rewardHeader (network : Int) (script : Bool) : UInt8 :=
  UInt8.ofNat ((if script then 0xF0 else 0xE0) + (network % 16).toNat)

/-- The reward address of a staking credential. A credential of another length
    than 28 octets is refused with its length. -/
def reward (network : Int) (credential : Bytes) (script : Bool) : Except Nat Bytes :=
  if credential.length = credentialLength then
    .ok (rewardHeader network script :: credential)
  else .error credential.length

end UtxoBalance.Address
