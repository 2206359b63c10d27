import UtxoBalance.Address.Basic
import UtxoBalance.Bytes.Base58
import UtxoBalance.Bytes.Bech32

/-!
# Balance keys

A balance is filed under a key: the text form of an address, or of the reward
address of the staking credential that an address refers to. A Byron address has
no staking credential, an enterprise address neither, and that of a pointer
address is known to the chain alone; these have no key in stake mode.

## Main definitions

- `Address.addressPart`, `Address.stakePart` — the human-readable parts
- `Address.paymentKey` — the text form of an address
- `Address.stakeKey` — the text form of its staking credential
- `Address.key` — the key under a mode
-/

namespace UtxoBalance.Address

/-- The number of the main network. -/
def mainnet : Int := 1

/-- The human-readable part of an address on a network. -/
def addressPart (network : Int) : String :=
  if network = mainnet then "addr" else "addr_test"

/-- The human-readable part of a reward address on a network. -/
def stakePart (network : Int) : String :=
  if network = mainnet then "stake" else "stake_test"

/-- Whether an address has the length that its layout asks for. -/
def checkLength (raw : Bytes) (kind : Kind) : Except DecodeError Unit :=
  match kind with
  | .base =>
    if raw.length = baseLength then .ok () else .error ⟨raw, .baseLength raw.length⟩
  | .reward =>
    if raw.length = rewardLength then .ok () else .error ⟨raw, .rewardLength raw.length⟩
  | .enterprise =>
    if raw.length = rewardLength then .ok () else .error ⟨raw, .enterpriseLength raw.length⟩
  | .pointer =>
    if rewardLength < raw.length then .ok () else .error ⟨raw, .missingPointer⟩
  | .byron => .ok ()

/-- The text form of a reward address. -/
def rewardText (raw : Bytes) : String :=
  Bech32.encode (stakePart (network raw)) raw

/-- The text form of an address: base58 for a Byron address, bech32 for any
    other. -/
def paymentKey (raw : Bytes) (kind : Kind) : Except DecodeError String :=
  match kind with
  | .byron => .ok (Base58.encode raw)
  | .reward => do
    checkLength raw kind
    return rewardText raw
  | _ => do
    checkLength raw kind
    return Bech32.encode (addressPart (network raw)) raw

/-- Whether the staking credential of a base address is that of a script: bit 1 of
    its layout. -/
def hasStakingScript (raw : Bytes) : Bool :=
  (layoutBits (raw.headD 0)).testBit 1

/-- The reward address of the staking credential of a base address. -/
def rewardOfBase (raw : Bytes) : Bytes :=
  rewardHeader (network raw) (hasStakingScript raw) ::
    (raw.drop (1 + credentialLength)).take credentialLength

/-- The text form of the staking credential that an address refers to, where it
    refers to one. -/
def stakeKey (raw : Bytes) (kind : Kind) : Except DecodeError (Option String) :=
  match kind with
  | .byron | .pointer | .enterprise => .ok none
  | .reward => do
    checkLength raw kind
    return some (rewardText raw)
  | .base => do
    checkLength raw kind
    return some (rewardText (rewardOfBase raw))

/-- The name of the mark that stands for a key where there is none. -/
def excludedMark : String := "EXCLUDED"

/-- The key of an address under a mode, where it has one. -/
def key (raw : Bytes) (mode : Mode) : Except DecodeError (Option String) := do
  let kind ← classify raw
  match mode with
  | .payment => return some (← paymentKey raw kind)
  | .stake => stakeKey raw kind

end UtxoBalance.Address
